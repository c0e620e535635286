import UsbRadioPlus.Asl3.HandoffContract
import UsbRadioPlus.Asl3.EchoContract
import UsbRadioPlus.Asl3.Framing
import UsbRadioPlus.Asl3.ReceiverEdges
import UsbRadioPlus.Asl3.StatusDelivery
import UsbRadioPlus.Asterisk.ReloadLaw
import UsbRadioPlus.Asterisk.TransmitIntent
import UsbRadioPlus.Core.ConfigFrame
import UsbRadioPlus.Driver.FreshInputs
import UsbRadioPlus.Driver.PinExclusivity
import UsbRadioPlus.Driver.RemoteFields
import UsbRadioPlus.Driver.RemoteLifetime
import UsbRadioPlus.Driver.RemoteScalar
import UsbRadioPlus.Driver.SafeRun
import UsbRadioPlus.Driver.SiteCache
import UsbRadioPlus.Driver.SiteTokens
import UsbRadioPlus.Driver.SiteTruth
import UsbRadioPlus.Runtime.Crossfade
import UsbRadioPlus.Runtime.GraphLease
import UsbRadioPlus.Station.RemoteDspAgreement
import UsbRadioPlus.Station.RemoteValidity
import UsbRadioPlus.Station.TransmitGate
import UsbRadioPlus.Station.UpdateOrder
import UsbRadioPlus.Tune.Atomicity
import UsbRadioPlus.Core.ProfilePrecedence
import UsbRadioPlus.Core.ProfileRanges
import UsbRadioPlus.Station.ResolutionLaw
import UsbRadioPlus.Asterisk.IdleClock
import UsbRadioPlus.Core.RemoteScaled
import UsbRadioPlus.Rnnoise.DenoiseContract
import UsbRadioPlus.Remote.Configuration
import UsbRadioPlus.Remote.OperatingContract
import UsbRadioPlus.Station.Hardware
import UsbRadioPlus.Driver.MixerUpdate
import UsbRadioPlus.Driver.InputEvents
import UsbRadioPlus.Tune.CalibrationSafety
import UsbRadioPlus.Tune.IdentityExchange
import UsbRadioPlus.Driver.RemoteOwnerWork
import UsbRadioPlus.Station.CInteger
import UsbRadioPlus.RmsAgc.Cadence
import UsbRadioPlus.Tune.RepositoryContract
import UsbRadioPlus.Driver.StationLifetime
import UsbRadioPlus.Product.ReloadRun
import UsbRadioPlus.Core.FfmpegFixedGraphs
import UsbRadioPlus.Sys.Ends
