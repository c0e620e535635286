import UsbRadioPlus.Tune.Repository

/-!
# What an operation of the store knows, and the calls that it makes

The knowledge of an operation (`Known`) follows from the answers to its calls: what it read, what its
temporary file holds, where that file is linked. The protocol of an operation bounds its calls by this
knowledge: it writes to nothing but its temporary file, and only while that stands under no other name;
it replaces or creates the configuration with a file that is complete and synchronized; it removes no
name but that of its temporary file.

`follows_program`: each operation of the source follows its protocol, whatever the system answers, and
a success means that what it bound is synchronized.
-/

namespace UsbRadioPlus
namespace Tune
namespace Repository

open Rust Sys Program

/-! ## Knowledge -/

/-- A temporary file: its name, its inode, and what is known of that. -/
structure Temporary where
  name : Str
  file : Nat
  data : List UInt8
  owner : Option (Nat × Nat)
  mode : Option Nat
  stable : Bool
  /-- The file stands under a second name. -/
  linked : Bool

/-- A temporary file that was just created. -/
def Temporary.new (name : Str) (file : Nat) : Temporary := ⟨name, file, [], none, none, false, false⟩

/-- What an operation has learned from its calls. -/
structure Known where
  /-- The attributes of the configuration. -/
  metadata : Option Attrs
  /-- The file of the configuration that was opened. -/
  opened : Option Nat
  /-- What was read from it, or from a sample. -/
  contents : Option (List UInt8)
  temporary : Option Temporary
  /-- What the operation bound the configuration to. -/
  bound : Option (List UInt8)
  /-- The backup that it made, and its file. -/
  backup : Option (Str × Nat)
  synced : Bool

namespace Known

/-- What an operation knows in front of its first call. -/
def nothing : Known := ⟨none, none, none, none, none, none, false⟩

/-- The operation has made a temporary file. -/
def holding (k : Known) (t : Temporary) : Known := { k with temporary := some t }

/-- The operation has changed its temporary file. -/
def changing (k : Known) (f : Temporary → Temporary) : Known :=
  { k with temporary := k.temporary.map f }

@[simp] theorem changing_holding (k : Known) (t : Temporary) (f : Temporary → Temporary) :
    (k.holding t).changing f = k.holding (f t) := rfl

@[simp] theorem temporary_holding (k : Known) (t : Temporary) :
    (k.holding t).temporary = some t := rfl

end Known

/-- The temporary file has the attributes that were read of the configuration. -/
def Temporary.Copies (t : Temporary) (k : Known) : Prop :=
  ∃ a, k.metadata = some a ∧ t.owner = some (a.owner, a.group) ∧ t.mode = some a.mode

/-- The temporary file is synchronized and holds what the operation read or was given. -/
structure Temporary.Ready (t : Temporary) (operation : Operation) (k : Known) : Prop where
  alone : t.linked = false
  stable : t.stable = true
  data : k.contents = some t.data ∨ ∃ text, operation = .writeAtomic text ∧ text.bytes = t.data

/-! ## The protocol -/

variable (repo : ConfigRepository)

/-- The operation may bind a second name to its temporary file. -/
def MayLink (operation : Operation) (k : Known) (t : Temporary) (destination : Str) : Prop :=
  operation = .ensureExists ∧ destination = repo.configName ∧ t.mode = some newConfigMode ∨
    operation = .createBackup ∧ destination ≠ repo.configName ∧ t.Copies k

/-- The calls that an operation may make next. -/
def may (operation : Operation) (k : Known) : Call → Prop
  | .metadata name | .openFile name => name = repo.configName
  | .readToEnd file => k.opened = some file
  | .createNew name =>
    name ≠ repo.configName ∧ k.temporary = none ∧ k.bound = none ∧ k.backup = none ∧
      k.synced = false
  | .write file _ | .fchown file _ _ | .setPermissions file _ | .syncAll file
  | .fileMetadata file => ∃ t, k.temporary = some t ∧ t.file = file ∧ t.linked = false
  | .rename source destination => ∃ t, k.temporary = some t ∧ t.name = source ∧
      destination = repo.configName ∧ (∃ text, operation = .writeAtomic text) ∧
      t.Ready operation k ∧ t.Copies k ∧ k.synced = false
  | .hardLink source destination => ∃ t, k.temporary = some t ∧ t.name = source ∧
      t.Ready operation k ∧ MayLink repo operation k t destination ∧ k.synced = false
  | .removeFile name => ∃ t, k.temporary = some t ∧ t.name = name
  | _ => True

/-- What an operation knows behind an answer. -/
def after (k : Known) : (c : Call) → c.Answer → Known
  | .readSample _, .ok bytes | .readToEnd _, .ok bytes => { k with contents := some bytes }
  | .metadata _, .ok a => { k with metadata := some a }
  | .openFile _, .ok file => { k with opened := some file }
  | .createNew name, .ok file => k.holding (.new name file)
  | .write _ buffer, .ok n =>
    k.changing fun t => { t with data := t.data ++ buffer.take n, stable := false }
  | .fileMetadata _, .ok a =>
    k.changing fun t => { t with owner := some (a.owner, a.group), mode := some a.mode }
  | .fchown _ owner group, .ok () =>
    k.changing fun t => { t with owner := some (owner, group), stable := false }
  | .setPermissions _ mode, .ok () =>
    k.changing fun t => { t with mode := some mode, stable := false }
  | .syncAll _, .ok () => k.changing fun t => { t with stable := true }
  | .rename _ _, .ok () =>
    { k with temporary := none, bound := k.temporary.map Temporary.data }
  | .hardLink _ destination, .ok () =>
    if destination = repo.configName then
      { k.changing fun t => { t with linked := true } with bound := k.temporary.map Temporary.data }
    else
      { k.changing fun t => { t with linked := true } with
        backup := k.temporary.map fun t => (destination, t.file) }
  | .removeFile _, .ok () => { k with temporary := none }
  | .syncDirectory, .ok () => { k with synced := true }
  | _, _ => k

/-- The protocol of an operation. -/
def protocol (operation : Operation) : Protocol Call Call.Answer Known where
  may := may repo operation
  after := after repo

/-- What an operation knows at its end. -/
def Ends : Operation → Outcome → Known → Prop
  | .ensureExists, .ensured (.ok .created), k => (∃ data, k.bound = some data) ∧ k.synced = true
  | .read, .read (.ok text), k => k.contents = some text.bytes
  | .writeAtomic text, .wrote (.ok ()), k => k.bound = some text.bytes ∧ k.synced = true
  | .createBackup, .backedUp (.ok name), k =>
    (∃ file, k.backup = some (name, file)) ∧ k.temporary = none ∧ k.synced = true
  | _, _, _ => True

/-! ## The parts of the operations

`OnOk Q`: `Q` holds behind a success. -/

/-- `Q` holds behind a success. -/
def OnOk {ε α : Type} (Q : α → Known → Prop) : Except ε α → Known → Prop
  | .ok a, k => Q a k
  | .error _, _ => True

section
variable {repo} {operation : Operation} {α : Type} {k : Known} {t : Temporary}

theorem follows_orIo {operationText : String} {path : Place} {m : Prog (Except ErrorKind α)}
    {Q : Except ErrorKind α → Known → Prop} {R : Except RepositoryError α → Known → Prop}
    (hm : m.Follows (protocol repo operation) Q k) (hok : ∀ a k, Q (.ok a) k → R (.ok a) k)
    (herr : ∀ e k, Q (.error e) k → R (.error (.io operationText path e)) k) :
    (orIo operationText path m).run.Follows (protocol repo operation) R k := by
  refine Follows.bind hm fun r k hr => ?_
  cases r with
  | ok a => exact hok a k hr
  | error e => exact herr e k hr

/-- One call that may fail. -/
theorem follows_call {operationText : String} {path : Place} {c : Call}
    {m : Prog (Except ErrorKind α)} {answers : c.Answer → Except ErrorKind α}
    {R : Except RepositoryError α → Known → Prop} (hm : m = .call c fun a => .done (answers a))
    (hc : may repo operation k c)
    (h : ∀ answer : c.Answer,
      R ((answers answer).mapError (.io operationText path)) (after repo k c answer)) :
    (orIo operationText path m).run.Follows (protocol repo operation) R k := by
  subst hm
  exact ⟨hc, h⟩

theorem follows_writeAll (turns : Nat) (buffer : List UInt8) (hturns : buffer.length ≤ turns)
    (halone : t.linked = false) :
    (writeAll t.file turns buffer).Follows (protocol repo operation)
      (fun r k' => ∃ data stable, k' = k.holding { t with data := data, stable := stable } ∧
        (r = .ok () → data = t.data ++ buffer)) (k.holding t) := by
  induction turns generalizing t buffer with
  | zero =>
    obtain rfl := List.length_eq_zero_iff.mp (Nat.le_zero.mp hturns)
    exact ⟨t.data, t.stable, rfl, fun _ => (List.append_nil _).symm⟩
  | succ turns ih =>
    cases buffer with
    | nil => exact ⟨t.data, t.stable, rfl, fun _ => (List.append_nil _).symm⟩
    | cons b buffer =>
      refine ⟨⟨t, rfl, rfl, halone⟩, fun answer => ?_⟩
      match answer with
      | .error e => exact ⟨t.data, t.stable, rfl, nofun⟩
      | .ok 0 => exact ⟨_, _, rfl, nofun⟩
      | .ok (n + 1) =>
        have hlen : ((b :: buffer).drop (n + 1)).length ≤ turns := by
          simp only [List.length_drop, List.length_cons] at hturns ⊢
          omega
        refine Follows.imp (ih _ hlen (t := { t with
          data := t.data ++ (b :: buffer).take (n + 1), stable := false }) halone) ?_
        rintro r k' ⟨data, stable, rfl, hdata⟩
        refine ⟨data, stable, rfl, fun hr => ?_⟩
        rw [hdata hr, List.append_assoc, List.take_append_drop]

/-- The temporary file holds the contents, with the attributes that it was given. -/
structure Temporary.Prepared (t : Temporary) (path : Str) (contents : List UInt8)
    (metadata : Option Attrs) : Prop where
  name : t.name = path
  alone : t.linked = false
  stable : t.stable = true
  data : t.data = contents
  owner : ∀ a, metadata = some a → t.owner = some (a.owner, a.group)
  mode : t.mode = some (metadata.elim newConfigMode Attrs.mode)

theorem follows_preserveOwner (metadata : Attrs) (halone : t.linked = false) :
    (preserveOwner t.file t.name metadata).run.Follows (protocol repo operation)
      (fun r k' => ∃ t', k' = k.holding t' ∧ t'.name = t.name ∧ t'.file = t.file ∧
        t'.linked = false ∧ t'.data = t.data ∧
        (r = .ok () → t'.owner = some (metadata.owner, metadata.group))) (k.holding t) := by
  refine Follows.tryBind (Q := fun r k' => ∃ t', k' = k.holding t' ∧ t'.name = t.name ∧
      t'.file = t.file ∧ t'.linked = false ∧ t'.data = t.data ∧
      ∀ a, r = .ok a → t'.owner = some (a.owner, a.group))
    (follows_call rfl ⟨t, rfl, rfl, halone⟩ fun answer => ?_) ?_ ?_
  · match answer with
    | .ok a => exact ⟨_, rfl, rfl, rfl, halone, rfl, by rintro _ ⟨⟩; rfl⟩
    | .error e => exact ⟨t, rfl, rfl, rfl, halone, rfl, nofun⟩
  · rintro a k' ⟨t', rfl, hname, hfile, halone', hdata, howner⟩
    by_cases hsame : a.owner = metadata.owner ∧ a.group = metadata.group
    · rw [if_pos hsame]
      refine Follows.tryPure ⟨t', rfl, hname, hfile, halone', hdata, fun _ => ?_⟩
      rw [howner a rfl, hsame.1, hsame.2]
    · rw [if_neg hsame]
      refine follows_call rfl ⟨t', rfl, hfile, halone'⟩ fun answer => ?_
      match answer with
      | .ok () => exact ⟨_, rfl, hname, hfile, halone', hdata, fun _ => rfl⟩
      | .error e => exact ⟨t', rfl, hname, hfile, halone', hdata, nofun⟩
  · rintro e k' ⟨t', rfl, hname, hfile, halone', hdata, -⟩
    exact ⟨t', rfl, hname, hfile, halone', hdata, nofun⟩

theorem follows_prepareAttrs (metadata : Option Attrs) (halone : t.linked = false) :
    (prepareAttrs t.file t.name metadata).run.Follows (protocol repo operation)
      (fun r k' => ∃ t', k' = k.holding t' ∧ t'.name = t.name ∧ t'.file = t.file ∧
        t'.linked = false ∧ t'.data = t.data ∧
        (r = .ok () → (∀ a, metadata = some a → t'.owner = some (a.owner, a.group)) ∧
          t'.mode = some (metadata.elim newConfigMode Attrs.mode))) (k.holding t) := by
  cases metadata with
  | none =>
    refine follows_call rfl ⟨t, rfl, rfl, halone⟩ fun answer => ?_
    match answer with
    | .ok () => exact ⟨_, rfl, rfl, rfl, halone, rfl, fun _ => ⟨nofun, rfl⟩⟩
    | .error e => exact ⟨t, rfl, rfl, rfl, halone, rfl, nofun⟩
  | some metadata =>
    refine Follows.tryBind (follows_preserveOwner metadata halone) ?_ ?_
    · rintro ⟨⟩ k' ⟨t', rfl, hname, hfile, halone', hdata, howner⟩
      refine follows_call rfl ⟨t', rfl, hfile, halone'⟩ fun answer => ?_
      match answer with
      | .ok () =>
        exact ⟨_, rfl, hname, hfile, halone', hdata,
          fun _ => ⟨fun a ha => Option.some.inj ha ▸ howner rfl, rfl⟩⟩
      | .error e => exact ⟨t', rfl, hname, hfile, halone', hdata, nofun⟩
    · rintro e k' ⟨t', rfl, hname, hfile, halone', hdata, -⟩
      exact ⟨t', rfl, hname, hfile, halone', hdata, nofun⟩

theorem follows_prepareFile (contents : List UInt8) (metadata : Option Attrs)
    (path : Str) (file : Nat) :
    (prepareFile file path contents metadata).run.Follows (protocol repo operation)
      (fun r k' => ∃ t, k' = k.holding t ∧ t.name = path ∧ t.linked = false ∧
        (r = .ok () → t.Prepared path contents metadata)) (k.holding (.new path file)) := by
  refine Follows.tryBind (follows_orIo (follows_writeAll _ contents (Nat.le_refl _) rfl)
    (R := fun r k' => ∃ t, k' = k.holding t ∧ t.name = path ∧ t.file = file ∧ t.linked = false ∧
      (r = .ok () → t.data = contents)) ?_ ?_) ?_ ?_
  · rintro ⟨⟩ k' ⟨data, stable, rfl, hdata⟩
    exact ⟨_, rfl, rfl, rfl, rfl, fun _ => hdata rfl⟩
  · rintro e k' ⟨data, stable, rfl, -⟩
    exact ⟨_, rfl, rfl, rfl, rfl, nofun⟩
  · rintro ⟨⟩ k' ⟨t, rfl, rfl, rfl, halone, hdata⟩
    refine Follows.tryBind (follows_prepareAttrs metadata halone) ?_ ?_
    · rintro ⟨⟩ k' ⟨t', rfl, hname, hfile, halone', hdata', hattrs⟩
      refine follows_call rfl ⟨t', rfl, hfile, halone'⟩ fun answer => ?_
      match answer with
      | .ok () =>
        exact ⟨_, rfl, hname, halone', fun _ => ⟨hname, halone', rfl, hdata'.trans (hdata rfl),
          (hattrs rfl).1, (hattrs rfl).2⟩⟩
      | .error e => exact ⟨t', rfl, hname, halone', nofun⟩
    · rintro e k' ⟨t', rfl, hname, -, halone', -⟩
      exact ⟨t', rfl, hname, halone', nofun⟩
  · rintro e k' ⟨t, rfl, hname, -, halone, -⟩
    exact ⟨t, rfl, hname, halone, nofun⟩

theorem follows_dropPending {path : Str} {R : Unit → Known → Prop}
    (h : ∃ t, k.temporary = some t ∧ t.name = path) (hR : ∀ k, R () k) :
    (dropPending path).Follows (protocol repo operation) R k :=
  ⟨h, fun _ => hR _⟩

theorem follows_preparePending (contents : List UInt8) (metadata : Option Attrs) (path : Str)
    (file : Nat) :
    (preparePending file path contents metadata).run.Follows (protocol repo operation)
      (OnOk fun pending k' => pending = path ∧
        ∃ t, k' = k.holding t ∧ t.Prepared path contents metadata)
      (k.holding (.new path file)) := by
  refine Follows.tryBind (Follows.orElse (R := OnOk fun _ k' => ∃ t, k' = k.holding t ∧
    t.Prepared path contents metadata) (follows_prepareFile contents metadata path file) ?_ ?_) ?_ ?_
  · rintro ⟨⟩ k' ⟨t, rfl, -, -, h⟩
    exact ⟨t, rfl, h rfl⟩
  · rintro e k' ⟨t, rfl, hname, -⟩
    exact follows_dropPending ⟨t, rfl, hname⟩ fun _ => trivial
  · exact fun _ k' h => Follows.tryPure ⟨rfl, h⟩
  · exact fun _ _ _ => trivial

/-! ## The names beside the configuration -/

theorem temporaryName_ne (process sequence : Nat) :
    temporaryName repo process sequence ≠ repo.configName := by
  intro h
  have := congrArg List.length h
  simp only [temporaryName, List.cons_append, List.length_cons, List.length_append] at this
  omega

theorem backupName_ne (timestamp process sequence : Nat) :
    backupName repo timestamp process sequence ≠ repo.configName := by
  intro h
  have := congrArg List.length h
  simp only [backupName, List.length_append, List.length_cons] at this
  omega

/-- No temporary file, and nothing bound. -/
structure Known.Blank (k : Known) : Prop where
  temporary : k.temporary = none
  bound : k.bound = none
  backup : k.backup = none
  synced : k.synced = false

theorem follows_writeTemporary (contents : List UInt8) (metadata : Option Attrs) (hk : k.Blank) :
    (writeTemporary repo contents metadata).run.Follows (protocol repo operation)
      (OnOk fun path k' => ∃ t, k' = k.holding t ∧ t.Prepared path contents metadata) k := by
  refine ⟨trivial, fun sequence => ⟨trivial, fun process => ?_⟩⟩
  refine Follows.tryBind (Q := OnOk fun file k' =>
      k' = k.holding (.new (temporaryName repo process sequence) file))
    (follows_call rfl ⟨temporaryName_ne _ _, hk.temporary, hk.bound, hk.backup, hk.synced⟩
      fun answer => ?_) ?_ ?_
  · match answer with
    | .ok file => exact rfl
    | .error e => trivial
  · rintro file k' rfl
    refine (follows_preparePending contents metadata _ file).imp fun r k' h => ?_
    cases r with
    | ok path =>
      obtain ⟨rfl, h⟩ := h
      exact h
    | error e => trivial
  · exact fun _ _ _ => trivial

theorem follows_syncParent :
    (syncParent).run.Follows (protocol repo operation)
      (OnOk fun _ k' => k' = { k with synced := true }) k := by
  refine Follows.tryBind (Q := fun _ k' => k' = k) (follows_call rfl trivial fun answer => ?_) ?_ ?_
  · match answer with
    | .ok () => exact rfl
    | .error e => exact rfl
  · rintro - k' rfl
    refine follows_call rfl trivial fun answer => ?_
    match answer with
    | .ok () => exact rfl
    | .error e => trivial
  · exact fun _ _ _ => trivial

/-- What an operation knows once its temporary file is linked to the destination, and removed. -/
def linkedTo (repo : ConfigRepository) (k : Known) (t : Temporary) (destination : Str) : Known :=
  if destination = repo.configName then { k with temporary := none, bound := some t.data }
  else { k with temporary := none, backup := some (destination, t.file) }

theorem follows_linkRemove {path destination : Str} {operationText : String} (ht : t.name = path)
    (hready : t.Ready operation (k.holding t))
    (hlink : MayLink repo operation (k.holding t) t destination) (hsynced : k.synced = false) :
    (Program.orElse (do
      linkFile path destination operationText
      remove path) (dropPending path)).run.Follows (protocol repo operation)
      (OnOk fun _ k' => k' = linkedTo repo k t destination) (k.holding t) := by
  refine Follows.orElse (Q := fun r k' =>
      ((∃ e, r = .error e) → ∃ t', k'.temporary = some t' ∧ t'.name = path) ∧
        (r = .ok () → k' = linkedTo repo k t destination)) ?_ (fun _ _ h => h.2 rfl)
    fun e k' h => follows_dropPending (h.1 ⟨e, rfl⟩) fun _ => trivial
  refine Follows.tryBind (Q := fun r k' => (∃ t', k'.temporary = some t' ∧ t'.name = path) ∧
      (r = .ok () → { k' with temporary := none } = linkedTo repo k t destination))
    (follows_call rfl ⟨t, rfl, ht, hready, hlink, hsynced⟩ fun answer => ?_) ?_ ?_
  · match answer with
    | .ok () =>
      by_cases hd : destination = repo.configName
      · simp only [after, linkedTo, if_pos hd]
        exact ⟨⟨_, rfl, ht⟩, fun _ => rfl⟩
      · simp only [after, linkedTo, if_neg hd]
        exact ⟨⟨_, rfl, ht⟩, fun _ => rfl⟩
    | .error e => exact ⟨⟨t, rfl, ht⟩, nofun⟩
  · rintro ⟨⟩ k' ⟨htemporary, hlinked⟩
    refine follows_call rfl htemporary fun answer => ?_
    match answer with
    | .ok () => exact ⟨nofun, fun _ => hlinked rfl⟩
    | .error e => exact ⟨fun _ => htemporary, nofun⟩
  · exact fun e k' h => ⟨fun _ => h.1, nofun⟩

/-! ## The operations -/

theorem follows_writeNew (contents : List UInt8) (hk : k.Blank)
    (hcontents : k.contents = some contents) :
    (writeNew repo contents).run.Follows (protocol repo .ensureExists)
      (OnOk fun _ k' => (∃ data, k'.bound = some data) ∧ k'.synced = true) k := by
  refine Follows.tryBind (follows_writeTemporary contents none hk) ?_ fun _ _ _ => trivial
  rintro path k' ⟨t, rfl, ht⟩
  have hready : t.Ready .ensureExists (k.holding t) := ⟨ht.alone, ht.stable, .inl (by
    rw [ht.data]; exact hcontents)⟩
  refine Follows.tryBind (follows_linkRemove ht.name hready (.inl ⟨rfl, rfl, ht.mode⟩) hk.synced) ?_
    fun _ _ _ => trivial
  rintro ⟨⟩ k' rfl
  refine follows_syncParent.imp fun r k' hr => ?_
  cases r with
  | ok _ =>
    obtain rfl := hr
    exact ⟨⟨t.data, by simp [linkedTo]⟩, rfl⟩
  | error e => trivial

theorem bytes_fromUtf8 {bytes : List UInt8} {text : Text} (h : fromUtf8 bytes = .ok text) :
    text.bytes = bytes := by
  unfold fromUtf8 at h
  split at h
  · exact congrArg Text.bytes (Except.ok.inj h).symm
  · cases h

theorem follows_readFirstSample (candidates : List Str) (hk : k.Blank) :
    (readFirstSample repo candidates).run.Follows (protocol repo operation)
      (OnOk fun text k' => k'.Blank ∧ k'.contents = some text.bytes) k := by
  induction candidates generalizing k with
  | nil => exact trivial
  | cons candidate candidates ih =>
    refine ⟨trivial, fun answer => ?_⟩
    have hblank : (after repo k (.readSample candidate) answer).Blank := by
      match answer with
      | .ok bytes => exact ⟨hk.1, hk.2, hk.3, hk.4⟩
      | .error e => exact hk
    beta_reduce
    cases hb : Except.bind answer fromUtf8 with
    | ok text =>
      match answer with
      | .ok bytes =>
        have hbytes : text.bytes = bytes := bytes_fromUtf8 hb
        exact ⟨hblank, congrArg some hbytes.symm⟩
      | .error e => cases hb
    | error e =>
      cases e with
      | notFound => exact ih hblank
      | _ => exact trivial

theorem follows_ensureExists (hk : k.Blank) :
    (ensureExists repo).run.Follows (protocol repo .ensureExists)
      (OnOk fun status k' => status = .created →
        (∃ data, k'.bound = some data) ∧ k'.synced = true) k := by
  refine Follows.tryBind (Q := fun _ k' => k' = k) (follows_call rfl trivial fun answer => ?_) ?_
    fun _ _ _ => trivial
  · cases answer <;> rfl
  rintro ⟨⟩ k' rfl
  refine Follows.tryBind (Q := fun _ k'' => k'' = k') (follows_call rfl trivial fun answer => ?_) ?_
    fun _ _ _ => trivial
  · cases answer <;> rfl
  rintro (_ | _) k'' rfl
  · refine Follows.tryBind (follows_readFirstSample _ hk) ?_ fun _ _ _ => trivial
    rintro text k' ⟨hblank, hcontents⟩
    refine Follows.bind (follows_writeNew _ hblank hcontents) fun r k'' hr => ?_
    match r with
    | .ok () => exact fun _ => hr
    | .error (.io operation path .alreadyExists) => exact nofun
    | .error (.io operation path .notFound) => trivial
    | .error (.io operation path .writeZero) => trivial
    | .error (.io operation path .invalidData) => trivial
    | .error (.io operation path .other) => trivial
    | .error (.shippedSampleUnavailable candidates) => trivial
  · exact nofun

theorem follows_readBytes (hk : k.Blank) :
    (readBytes repo).Follows (protocol repo operation)
      (OnOk fun bytes k' => k'.Blank ∧ k'.contents = some bytes ∧ k'.metadata = k.metadata) k := by
  refine ⟨rfl, fun answer => ?_⟩
  match answer with
  | .error e => trivial
  | .ok file =>
    refine ⟨rfl, fun answer => ?_⟩
    match answer with
    | .error e => trivial
    | .ok bytes => exact ⟨⟨hk.1, hk.2, hk.3, hk.4⟩, rfl, rfl⟩

theorem follows_read (hk : k.Blank) :
    (read repo).run.Follows (protocol repo .read)
      (OnOk fun text k' => k'.contents = some text.bytes) k := by
  refine follows_orIo (Q := OnOk fun text k' => k'.contents = some text.bytes)
    (Follows.bind (follows_readBytes hk) fun r k' hr => ?_) (fun _ _ h => h) fun _ _ _ => trivial
  cases r with
  | error e => exact trivial
  | ok bytes =>
    cases htext : fromUtf8 bytes with
    | error e => simp only [Except.bind, htext]; exact trivial
    | ok text =>
      simp only [Except.bind, htext]
      exact hr.2.1.trans (congrArg some (bytes_fromUtf8 htext).symm)

/-- Behind the call for the attributes of the configuration. -/
theorem follows_metadata {operationText : String} {path : Place} (hk : k.Blank) :
    (orIo operationText path (Call.metadata repo.configName).make).run.Follows
      (protocol repo operation) (OnOk fun a k' => k'.Blank ∧ k'.metadata = some a) k := by
  refine follows_call rfl rfl fun answer => ?_
  match answer with
  | .ok a => exact ⟨⟨hk.1, hk.2, hk.3, hk.4⟩, rfl⟩
  | .error e => trivial

theorem Temporary.Prepared.copies {path : Str} {contents : List UInt8} {a : Attrs}
    (h : t.Prepared path contents (some a)) (ha : k.metadata = some a) : t.Copies (k.holding t) :=
  ⟨a, ha, h.owner a rfl, h.mode⟩

theorem follows_writeAtomic (text : Text) (hk : k.Blank) :
    (writeAtomic repo text).run.Follows (protocol repo (.writeAtomic text))
      (OnOk fun _ k' => k'.bound = some text.bytes ∧ k'.synced = true) k := by
  refine Follows.tryBind (follows_metadata hk) ?_ fun _ _ _ => trivial
  rintro a k₁ ⟨hblank, ha⟩
  refine Follows.tryBind (follows_writeTemporary text.bytes (some a) hblank) ?_ fun _ _ _ => trivial
  rintro path - ⟨t, rfl, ht⟩
  have hready : t.Ready (.writeAtomic text) (k₁.holding t) :=
    ⟨ht.alone, ht.stable, .inr ⟨text, rfl, ht.data.symm⟩⟩
  refine Follows.tryBind (Q := OnOk fun _ k' => k'.bound = some text.bytes) ?_ ?_
    fun _ _ _ => trivial
  · refine Follows.orElse (Q := fun r k' => ((∃ e, r = .error e) → k' = k₁.holding t) ∧
        (r = .ok () → k'.bound = some text.bytes)) ?_ (fun _ _ h => h.2 rfl) ?_
    · refine follows_call rfl ⟨t, rfl, ht.name, rfl, ⟨text, rfl⟩, hready, ht.copies ha,
        hblank.synced⟩ fun answer => ?_
      match answer with
      | .ok () => exact ⟨nofun, fun _ => congrArg some ht.data⟩
      | .error e => exact ⟨fun _ => rfl, nofun⟩
    · rintro e k' ⟨hsame, -⟩
      exact follows_dropPending ⟨t, by rw [hsame ⟨e, rfl⟩]; rfl, ht.name⟩ fun _ => trivial
  · rintro ⟨⟩ k₂ hbound
    refine follows_syncParent.imp fun r k' hr => ?_
    cases r with
    | ok _ =>
      obtain rfl := hr
      exact ⟨hbound, rfl⟩
    | error e => trivial

theorem follows_createBackup (hk : k.Blank) :
    (createBackup repo).run.Follows (protocol repo .createBackup)
      (OnOk fun name k' => (∃ file, k'.backup = some (name, file)) ∧ k'.temporary = none ∧
        k'.synced = true) k := by
  refine Follows.tryBind (follows_metadata hk) ?_ fun _ _ _ => trivial
  rintro a k₁ ⟨hblank, ha⟩
  refine Follows.tryBind (follows_orIo (follows_readBytes hblank)
    (R := OnOk fun bytes k' => k'.Blank ∧ k'.contents = some bytes ∧ k'.metadata = some a)
    (fun bytes k' h => ⟨h.1, h.2.1, h.2.2.trans ha⟩) fun _ _ _ => trivial) ?_ fun _ _ _ => trivial
  rintro contents k₂ ⟨hblank, hcontents, ha⟩
  refine ⟨trivial, fun timestamp => ⟨trivial, fun sequence => ⟨trivial, fun process => ?_⟩⟩⟩
  refine Follows.tryBind (follows_writeTemporary contents (some a) hblank) ?_ fun _ _ _ => trivial
  rintro path - ⟨t, rfl, ht⟩
  have hready : t.Ready .createBackup (k₂.holding t) :=
    ⟨ht.alone, ht.stable, .inl (by rw [ht.data]; exact hcontents)⟩
  have hne := @backupName_ne repo timestamp process sequence
  refine Follows.tryBind (follows_linkRemove ht.name hready
    (.inr ⟨rfl, hne, ht.copies ha⟩) hblank.synced) ?_ fun _ _ _ => trivial
  rintro ⟨⟩ - rfl
  refine Follows.tryBind follows_syncParent ?_ fun _ _ _ => trivial
  rintro ⟨⟩ - rfl
  simp only [linkedTo, if_neg hne]
  exact Follows.tryPure ⟨⟨t.file, rfl⟩, rfl, rfl⟩

theorem blank_nothing : Known.nothing.Blank := ⟨rfl, rfl, rfl, rfl⟩

/-- **Every operation follows its protocol**, whatever the system answers. -/
theorem follows_program (operation : Operation) :
    (operation.program repo).Follows (protocol repo operation) (Ends operation) .nothing := by
  cases operation with
  | ensureExists =>
    refine Follows.bind (follows_ensureExists blank_nothing) fun r k hr => ?_
    match r with
    | .ok .created => exact hr rfl
    | .ok .existing => exact trivial
    | .error e => exact trivial
  | read =>
    refine Follows.bind (follows_read blank_nothing) fun r k hr => ?_
    cases r with
    | ok text => exact hr
    | error e => exact trivial
  | writeAtomic text =>
    refine Follows.bind (follows_writeAtomic text blank_nothing) fun r k hr => ?_
    match r with
    | .ok () => exact hr
    | .error e => exact trivial
  | createBackup =>
    refine Follows.bind (follows_createBackup blank_nothing) fun r k hr => ?_
    cases r with
    | ok name => exact hr
    | error e => exact trivial

end

end Repository
end Tune
end UsbRadioPlus
