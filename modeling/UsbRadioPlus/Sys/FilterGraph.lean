import Mathlib.Data.List.Basic
import UsbRadioPlus.Sys.Wiring

/-!
# Text of filter graphs

The grammar of filter graphs. A graph has chains, apart by `;`, and a chain has filters, apart by `,`. A
filter is a name, with its arguments behind a `=`. Labels in brackets stand in front of a filter for the
links that it consumes, and behind it for those that it produces. A backslash takes the character behind it
as it is, and quotes the characters between them, backslashes as well.

`Reader` reads a text character by character, and `parse` a whole text. On the other side are names, arguments
and chains that carry what makes them readable (`Name`, `Argument`, `Chain`); `parse_text` says that their
text reads as their value.
-/

namespace Sys
namespace FilterGraph

/-- A filter with the labels of its inputs and outputs. -/
structure Filter where
  inputs : List (List Char)
  name : List Char
  /-- Behind the `=`, without quotes and escapes. -/
  arguments : Option (List Char)
  outputs : List (List Char)
  deriving DecidableEq

/-- The chains of a graph. -/
abbrev Graph := List (List Filter)

/-! ## The reader -/

/-- The characters of names and labels. -/
def isNameChar (c : Char) : Bool := c.isAlphanum || c == '_'

/-- A name: `text` has a character, and only those of names. -/
def isName (text : List Char) : Bool := !text.isEmpty && text.all isNameChar

/-- How the next character is read. -/
inductive Quoting where
  | bare | escaped | quoted
  deriving DecidableEq

/-- The reader of a text, character by character. -/
structure Reader where
  chains : Graph
  /-- The filters of the chain that is being read. -/
  filters : List Filter
  filter : Filter
  /-- The label that is being read. -/
  label : Option (List Char)
  quoting : Quoting
  deriving DecidableEq

/-- The filter in front of its first character. -/
def Filter.empty : Filter := ⟨[], [], none, []⟩

namespace Reader

/-- The reader in front of the text. -/
def start : Reader := ⟨[], [], .empty, none, .bare⟩

/-- A character without a meaning of its own. Nothing but labels is behind a label that is produced. -/
def literal (r : Reader) (c : Char) : Option Reader :=
  match r.label with
  | some text => some { r with label := some (text ++ [c]) }
  | none =>
    if r.filter.outputs ≠ [] then none
    else
      match r.filter.arguments with
      | some text => some { r with filter := { r.filter with arguments := some (text ++ [c]) } }
      | none => some { r with filter := { r.filter with name := r.filter.name ++ [c] } }

/-- The end of a label, in front of a filter or behind it. -/
def closeLabel (r : Reader) (text : List Char) : Option Reader :=
  if isName text then
    some { r with
      label := none
      filter :=
        if r.filter.name = [] then { r.filter with inputs := r.filter.inputs ++ [text] }
        else { r.filter with outputs := r.filter.outputs ++ [text] } }
  else none

/-- The end of a filter. -/
def endFilter (r : Reader) : Option Reader :=
  if isName r.filter.name then some { r with filters := r.filters ++ [r.filter], filter := .empty }
  else none

/-- The end of a chain. -/
def endChain (r : Reader) : Reader := { r with chains := r.chains ++ [r.filters], filters := [] }

/-- A character out of quotes. -/
def delimiter (r : Reader) (c : Char) : Option Reader :=
  match r.label with
  | some text => if c = ']' then r.closeLabel text else if c = '[' then none else r.literal c
  | none =>
    if c = '[' then some { r with label := some [] }
    else if c = ']' then none
    else if c = '=' ∧ r.filter.arguments = none ∧ r.filter.outputs = [] then
      some { r with filter := { r.filter with arguments := some [] } }
    else if c = ',' then r.endFilter
    else if c = ';' then r.endFilter.map endChain
    else r.literal c

/-- The reader behind a character. -/
def step (r : Reader) (c : Char) : Option Reader :=
  match r.quoting with
  | .escaped => (r.literal c).map fun r => { r with quoting := .bare }
  | .quoted => if c = '\'' then some { r with quoting := .bare } else r.literal c
  | .bare =>
    if c = '\\' then some { r with quoting := .escaped }
    else if c = '\'' then some { r with quoting := .quoted }
    else r.delimiter c

/-- The reader behind a text. -/
def read : Reader → List Char → Option Reader
  | r, [] => some r
  | r, c :: rest => (r.step c).bind fun r => r.read rest

/-- The end of the text; a `;` may be in front of it. -/
def finish (r : Reader) : Option Graph :=
  if r.label ≠ none ∨ r.quoting ≠ .bare then none
  else if r.filter = .empty ∧ r.filters = [] then some r.chains
  else r.endFilter.map fun r => r.endChain.chains

@[simp] theorem read_nil (r : Reader) : r.read [] = some r := rfl

theorem read_append (r : Reader) (s t : List Char) :
    r.read (s ++ t) = (r.read s).bind fun r => r.read t := by
  induction s generalizing r with
  | nil => rfl
  | cons c rest ih =>
    simp only [List.cons_append, read]
    cases r.step c with
    | none => rfl
    | some r => exact ih r

/-- Reading goes on behind a text that is read. -/
theorem read_append_of {r r' : Reader} {s : List Char} (h : r.read s = some r') (t : List Char) :
    r.read (s ++ t) = r'.read t := by
  rw [read_append, h, Option.bind_some]

end Reader

/-- A graph from its text. -/
def parse (text : List Char) : Option Graph := (Reader.start.read text).bind Reader.finish

/-! ## Names, arguments and chains -/

/-- The name of a filter or of a link. -/
structure Name where
  text : List Char
  isName : isName text = true

/-- A character of arguments that stands for itself. -/
def isPlain (c : Char) : Bool :=
  c != '[' && c != ']' && c != ',' && c != ';' && c != '\\' && c != '\''

/-- `text` reads as `value`: plain characters, and quoted parts. -/
inductive Literal : List Char → List Char → Prop where
  | nil : Literal [] []
  | plain {c : Char} {text value : List Char} (h : isPlain c = true) (ht : Literal text value) :
      Literal (c :: text) (c :: value)
  | quoted {body text value : List Char} (h : '\'' ∉ body) (ht : Literal text value) :
      Literal ('\'' :: (body ++ '\'' :: text)) (body ++ value)

theorem Literal.of_all {text : List Char} (h : text.all isPlain = true) : Literal text text := by
  induction text with
  | nil => exact .nil
  | cons c rest ih =>
    rw [List.all_cons, Bool.and_eq_true] at h
    exact .plain h.1 (ih h.2)

theorem Literal.append {text value text' value' : List Char} (h : Literal text value)
    (h' : Literal text' value') : Literal (text ++ text') (value ++ value') := by
  induction h with
  | nil => exact h'
  | plain hc _ ih => exact .plain hc ih
  | quoted hbody _ ih => simpa using Literal.quoted hbody ih

/-- Arguments as they are written and as they are read. -/
structure Argument where
  text : List Char
  value : List Char
  literal : Literal text value

/-- Arguments without quotes. -/
def Argument.plain (text : List Char) (h : text.all isPlain = true) : Argument := ⟨text, text, .of_all h⟩

/-- A filter of a chain, without labels. -/
structure Clause where
  name : Name
  argument : Option Argument

/-- A filter as it is written, without its labels. -/
def Clause.text (clause : Clause) : List Char :=
  clause.name.text ++
    match clause.argument with
    | none => []
    | some argument => '=' :: argument.text

/-- A chain, with the links that its first filter consumes and its last filter produces. -/
structure Chain (L : Type) where
  inputs : List L
  first : Clause
  rest : List Clause
  outputs : List L

namespace Chain

variable {L M : Type}

/-- A chain as a node: the links it takes and those it makes. -/
def node (chain : Chain L) : Node L := ⟨chain.inputs, chain.outputs⟩

/-- A chain with other names for its links. -/
def map (f : L → M) (chain : Chain L) : Chain M :=
  ⟨chain.inputs.map f, chain.first, chain.rest, chain.outputs.map f⟩

@[simp] theorem node_map (f : L → M) (chain : Chain L) : (chain.map f).node = chain.node.map f := rfl

/-- The filters of a chain. -/
def clauses (chain : Chain L) : List Clause := chain.first :: chain.rest

/-- Links as they are written. -/
def labels (links : List Name) : List Char := links.flatMap fun link => '[' :: (link.text ++ [']'])

/-- A chain as it is written. -/
def text (chain : Chain Name) : List Char :=
  labels chain.inputs ++ chain.first.text ++
    (chain.rest.flatMap fun clause => ',' :: clause.text) ++ labels chain.outputs

/-- The filters of a chain as they are read: the first one has the inputs, the last one the outputs.
-/
def filters (inputs outputs : List (List Char)) : Clause → List Clause → List Filter
  | clause, [] => [⟨inputs, clause.name.text, clause.argument.map Argument.value, outputs⟩]
  | clause, next :: rest =>
    ⟨inputs, clause.name.text, clause.argument.map Argument.value, []⟩ :: filters [] outputs next rest

/-- A chain as it is read. -/
def value (chain : Chain Name) : List Filter :=
  filters (chain.inputs.map Name.text) (chain.outputs.map Name.text) chain.first chain.rest

/-- Chains with a `;` behind each. -/
def terminated (chains : List (Chain Name)) : List Char :=
  chains.flatMap fun chain => chain.text ++ [';']

theorem terminated_append (cs ds : List (Chain Name)) :
    terminated (cs ++ ds) = terminated cs ++ terminated ds :=
  List.flatMap_append

end Chain

/-! ## What the texts read as -/

namespace Reader

variable {chains : Graph} {filters : List Filter} {ins outs : List (List Char)} {name a : List Char}

theorem isPlain_of_isNameChar {c : Char} (h : isNameChar c = true) : isPlain c = true ∧ c ≠ '=' := by
  have hne : ∀ d : Char, isNameChar d = false → c ≠ d := by
    rintro d hd rfl
    rw [h] at hd
    cases hd
  simp [isPlain, hne '[' (by decide), hne ']' (by decide), hne ',' (by decide), hne ';' (by decide),
    hne '\\' (by decide), hne '\'' (by decide), hne '=' (by decide)]

theorem ne_of_isPlain {c : Char} (h : isPlain c = true) :
    c ≠ '[' ∧ c ≠ ']' ∧ c ≠ ',' ∧ c ≠ ';' ∧ c ≠ '\\' ∧ c ≠ '\'' := by
  simpa [isPlain, and_assoc] using h

/-- Names come before arguments. -/
theorem read_name {text : List Char} (h : text.all isNameChar = true) :
    (⟨chains, filters, ⟨ins, name, none, []⟩, none, .bare⟩ : Reader).read text =
      some ⟨chains, filters, ⟨ins, name ++ text, none, []⟩, none, .bare⟩ := by
  induction text generalizing name with
  | nil => simp
  | cons c rest ih =>
    rw [List.all_cons, Bool.and_eq_true] at h
    obtain ⟨hplain, heq⟩ := isPlain_of_isNameChar h.1
    obtain ⟨h₁, h₂, h₃, h₄, h₅, h₆⟩ := ne_of_isPlain hplain
    have hstep : (⟨chains, filters, ⟨ins, name, none, []⟩, none, .bare⟩ : Reader).step c =
        some ⟨chains, filters, ⟨ins, name ++ [c], none, []⟩, none, .bare⟩ := by
      simp [step, delimiter, literal, h₁, h₂, h₃, h₄, h₅, h₆, heq]
    rw [read, hstep, Option.bind_some, ih h.2, List.append_assoc, List.singleton_append]

theorem read_quoted {body : List Char} (h : '\'' ∉ body) :
    (⟨chains, filters, ⟨ins, name, some a, []⟩, none, .quoted⟩ : Reader).read body =
      some ⟨chains, filters, ⟨ins, name, some (a ++ body), []⟩, none, .quoted⟩ := by
  induction body generalizing a with
  | nil => simp
  | cons c rest ih =>
    rw [List.mem_cons, not_or] at h
    have hstep : (⟨chains, filters, ⟨ins, name, some a, []⟩, none, .quoted⟩ : Reader).step c =
        some ⟨chains, filters, ⟨ins, name, some (a ++ [c]), []⟩, none, .quoted⟩ := by
      simp [step, literal, Ne.symm h.1]
    rw [read, hstep, Option.bind_some, ih h.2, List.append_assoc, List.singleton_append]

theorem read_literal {text value : List Char} (h : Literal text value) :
    (⟨chains, filters, ⟨ins, name, some a, []⟩, none, .bare⟩ : Reader).read text =
      some ⟨chains, filters, ⟨ins, name, some (a ++ value), []⟩, none, .bare⟩ := by
  induction h generalizing a with
  | nil => simp
  | @plain c text value hc _ ih =>
    obtain ⟨h₁, h₂, h₃, h₄, h₅, h₆⟩ := ne_of_isPlain hc
    have hstep : (⟨chains, filters, ⟨ins, name, some a, []⟩, none, .bare⟩ : Reader).step c =
        some ⟨chains, filters, ⟨ins, name, some (a ++ [c]), []⟩, none, .bare⟩ := by
      simp [step, delimiter, literal, h₁, h₂, h₃, h₄, h₅, h₆]
    rw [read, hstep, Option.bind_some, ih, List.append_assoc, List.singleton_append]
  | @quoted body text value hbody _ ih =>
    have hopen : (⟨chains, filters, ⟨ins, name, some a, []⟩, none, .bare⟩ : Reader).step '\'' =
        some ⟨chains, filters, ⟨ins, name, some a, []⟩, none, .quoted⟩ := by simp [step]
    have hclose : (⟨chains, filters, ⟨ins, name, some (a ++ body), []⟩, none, .quoted⟩ : Reader).step
        '\'' = some ⟨chains, filters, ⟨ins, name, some (a ++ body), []⟩, none, .bare⟩ := by
      simp [step]
    rw [read, hopen, Option.bind_some, read_append_of (read_quoted hbody), read, hclose,
      Option.bind_some, ih, List.append_assoc]

theorem read_labelText {f : Filter} {text l : List Char} (h : text.all isNameChar = true) :
    (⟨chains, filters, f, some l, .bare⟩ : Reader).read text =
      some ⟨chains, filters, f, some (l ++ text), .bare⟩ := by
  induction text generalizing l with
  | nil => simp
  | cons c rest ih =>
    rw [List.all_cons, Bool.and_eq_true] at h
    obtain ⟨h₁, h₂, -, -, h₅, h₆⟩ := ne_of_isPlain (isPlain_of_isNameChar h.1).1
    have hstep : (⟨chains, filters, f, some l, .bare⟩ : Reader).step c =
        some ⟨chains, filters, f, some (l ++ [c]), .bare⟩ := by
      simp [step, delimiter, literal, h₁, h₂, h₅, h₆]
    rw [read, hstep, Option.bind_some, ih h.2, List.append_assoc, List.singleton_append]

theorem read_label (f : Filter) (link : Name) :
    (⟨chains, filters, f, none, .bare⟩ : Reader).read ('[' :: (link.text ++ [']'])) =
      some ⟨chains, filters,
        if f.name = [] then { f with inputs := f.inputs ++ [link.text] }
        else { f with outputs := f.outputs ++ [link.text] }, none, .bare⟩ := by
  have hall : link.text.all isNameChar = true := (Bool.and_eq_true _ _ ▸ link.isName : _ ∧ _).2
  have hopen : (⟨chains, filters, f, none, .bare⟩ : Reader).step '[' =
      some ⟨chains, filters, f, some [], .bare⟩ := by simp [step, delimiter]
  rw [read, hopen, Option.bind_some, read_append_of (read_labelText hall)]
  simp [read, step, delimiter, closeLabel, link.isName]

theorem read_inputs (links : List Name) :
    (⟨chains, filters, ⟨ins, [], none, []⟩, none, .bare⟩ : Reader).read (Chain.labels links) =
      some ⟨chains, filters, ⟨ins ++ links.map Name.text, [], none, []⟩, none, .bare⟩ := by
  induction links generalizing ins with
  | nil => simp [Chain.labels]
  | cons link rest ih =>
    rw [Chain.labels, List.flatMap_cons, read_append_of (read_label _ _)]
    simpa [Chain.labels] using @ih (ins ++ [link.text])

theorem read_outputs {arguments : Option (List Char)} (hname : name ≠ []) (links : List Name) :
    (⟨chains, filters, ⟨ins, name, arguments, outs⟩, none, .bare⟩ : Reader).read
        (Chain.labels links) =
      some ⟨chains, filters, ⟨ins, name, arguments, outs ++ links.map Name.text⟩, none, .bare⟩ := by
  induction links generalizing outs with
  | nil => simp [Chain.labels]
  | cons link rest ih =>
    rw [Chain.labels, List.flatMap_cons, read_append_of (read_label _ _)]
    simpa [Chain.labels, hname] using @ih (outs ++ [link.text])

theorem read_clause (clause : Clause) :
    (⟨chains, filters, ⟨ins, [], none, []⟩, none, .bare⟩ : Reader).read clause.text =
      some ⟨chains, filters, ⟨ins, clause.name.text, clause.argument.map Argument.value, []⟩, none,
        .bare⟩ := by
  have hall : clause.name.text.all isNameChar = true :=
    (Bool.and_eq_true _ _ ▸ clause.name.isName : _ ∧ _).2
  rw [Clause.text, read_append_of (read_name hall), List.nil_append]
  cases clause.argument with
  | none => rfl
  | some argument =>
    have hstep : (⟨chains, filters, ⟨ins, clause.name.text, none, []⟩, none, .bare⟩ : Reader).step '=' =
        some ⟨chains, filters, ⟨ins, clause.name.text, some [], []⟩, none, .bare⟩ := by
      simp [step, delimiter]
    rw [read, hstep, Option.bind_some, read_literal argument.literal]
    simp

/-- A chain up to its end: its last filter has not ended yet. -/
theorem read_clauses (ins : List (List Char)) (outputs : List Name) (clause : Clause)
    (rest : List Clause) :
    ∃ fs f, Chain.filters ins (outputs.map Name.text) clause rest = fs ++ [f] ∧
      isName f.name = true ∧
      (⟨chains, filters, ⟨ins, [], none, []⟩, none, .bare⟩ : Reader).read
          (clause.text ++ (rest.flatMap fun clause => ',' :: clause.text) ++ Chain.labels outputs) =
        some ⟨chains, filters ++ fs, f, none, .bare⟩ := by
  have hne : ∀ clause : Clause, clause.name.text ≠ [] := by
    intro clause hnil
    have hname := clause.name.isName
    rw [hnil] at hname
    cases hname
  induction rest generalizing clause ins filters with
  | nil =>
    refine ⟨[], _, rfl, clause.name.isName, ?_⟩
    rw [List.flatMap_nil, List.append_nil, read_append_of (read_clause clause),
      read_outputs (hne clause)]
    simp
  | cons next rest ih =>
    obtain ⟨fs, f, hfilters, hname, hread⟩ :=
      @ih (filters ++ [⟨ins, clause.name.text, clause.argument.map Argument.value, []⟩]) [] next
    refine ⟨_ :: fs, f, congrArg (_ :: ·) hfilters, hname, ?_⟩
    have hstep : (⟨chains, filters, ⟨ins, clause.name.text, clause.argument.map Argument.value, []⟩,
          none, .bare⟩ : Reader).step ',' =
        some ⟨chains, filters ++ [⟨ins, clause.name.text, clause.argument.map Argument.value, []⟩],
          .empty, none, .bare⟩ := by
      simp [step, delimiter, endFilter, clause.name.isName]
    rw [List.append_assoc, read_append_of (read_clause clause), List.flatMap_cons, List.cons_append,
      List.cons_append, read, hstep, Option.bind_some, Filter.empty, hread, List.append_assoc]
    rfl

/-- A chain up to its end. -/
theorem read_chain (chain : Chain Name) :
    ∃ fs f, chain.value = fs ++ [f] ∧ isName f.name = true ∧
      (⟨chains, [], .empty, none, .bare⟩ : Reader).read chain.text =
        some ⟨chains, fs, f, none, .bare⟩ := by
  obtain ⟨fs, f, hvalue, hname, hread⟩ := @read_clauses chains []
    (chain.inputs.map Name.text) chain.outputs chain.first chain.rest
  refine ⟨fs, f, hvalue, hname, ?_⟩
  rw [Chain.text, List.append_assoc, List.append_assoc, Filter.empty, read_append_of (read_inputs _),
    List.nil_append, ← List.append_assoc, hread, List.nil_append]

theorem read_terminated (cs : List (Chain Name)) :
    (⟨chains, [], .empty, none, .bare⟩ : Reader).read (Chain.terminated cs) =
      some ⟨chains ++ cs.map Chain.value, [], .empty, none, .bare⟩ := by
  induction cs generalizing chains with
  | nil => simp [Chain.terminated]
  | cons chain rest ih =>
    obtain ⟨fs, f, hvalue, hname, hread⟩ := @read_chain chains chain
    have hstep : (⟨chains, fs, f, none, .bare⟩ : Reader).step ';' =
        some ⟨chains ++ [chain.value], [], .empty, none, .bare⟩ := by
      simp [step, delimiter, endFilter, endChain, hname, hvalue]
    rw [Chain.terminated, List.flatMap_cons, List.append_assoc, read_append_of hread,
      List.singleton_append, read, hstep, Option.bind_some]
    simpa [Chain.terminated] using @ih (chains ++ [chain.value])

end Reader

/-- The text of terminated chains reads as their values. -/
theorem parse_terminated (cs : List (Chain Name)) :
    parse (Chain.terminated cs) = some (cs.map Chain.value) := by
  rw [parse, Reader.start, Reader.read_terminated]
  simp [Reader.finish]

/-- No `;` has to be behind the last chain. -/
theorem parse_text (cs : List (Chain Name)) (last : Chain Name) :
    parse (Chain.terminated cs ++ last.text) = some ((cs ++ [last]).map Chain.value) := by
  obtain ⟨fs, f, hvalue, hname, hread⟩ := @Reader.read_chain (cs.map Chain.value) last
  have hne : f ≠ .empty := by
    rintro rfl
    cases hname
  rw [parse, Reader.start, Reader.read_append_of (Reader.read_terminated cs), List.nil_append, hread]
  simp [Reader.finish, Reader.endFilter, Reader.endChain, hne, hname, hvalue]

/-! ## The links of a graph -/

/-- A chain of a graph as a node: the links of all its filters. -/
def chainNode (filters : List Filter) : Node (List Char) :=
  ⟨filters.flatMap Filter.inputs, filters.flatMap Filter.outputs⟩

/-- The chains of a graph as nodes. -/
def Graph.nodes (graph : Graph) : List (Node (List Char)) := graph.map chainNode

/-- Only the first filter of a chain consumes links, and only the last one produces links. -/
theorem chainNode_filters (ins outs : List (List Char)) (clause : Clause) (rest : List Clause) :
    chainNode (Chain.filters ins outs clause rest) = ⟨ins, outs⟩ := by
  induction rest generalizing clause ins with
  | nil => simp [Chain.filters, chainNode]
  | cons next rest ih =>
    have hrest := ih [] next
    simp only [chainNode, Node.mk.injEq] at hrest
    simp [Chain.filters, chainNode, hrest.1, hrest.2]

@[simp] theorem chainNode_value (chain : Chain Name) :
    chainNode chain.value = chain.node.map Name.text :=
  chainNode_filters _ _ _ _

theorem nodes_value (cs : List (Chain Name)) :
    Graph.nodes (cs.map Chain.value) = (cs.map Chain.node).map (Node.map Name.text) := by
  simp [Graph.nodes, Function.comp_def]

/-- A graph from `source` to `sink` without a cycle: every link is produced once and consumed once, `source` is
there from the start, `sink` is left, every chain is reached from `source` and takes its links from `source` and
from chains in front of it. -/
structure Connected (source sink : List Char) (graph : Graph) : Prop where
  producedOnce : ∀ l ∈ source :: Node.produced graph.nodes,
    (source :: Node.produced graph.nodes).count l = 1
  consumedOnce : ∀ l ∈ source :: Node.produced graph.nodes,
    (Node.consumed graph.nodes).count l = if l = sink then 0 else 1
  noOther : Node.consumed graph.nodes ⊆ source :: Node.produced graph.nodes
  sinkProduced : sink ∈ Node.produced graph.nodes
  ordered : Node.Fed [source] graph.nodes
  reached : ∀ node ∈ graph.nodes, node.inputs ≠ [] ∧
    ∀ l ∈ node.inputs, Reached [source] graph.nodes l

theorem Connected.of_wired {source sink : List Char} {graph : Graph} (hne : sink ≠ source)
    (h : Wired [source] [sink] graph.nodes) : Connected source sink graph where
  producedOnce l hl := h.count_outputs hl
  consumedOnce l hl := by
    have hcount := h.count_inputs (l := l) hl
    by_cases hsink : l = sink
    · subst hsink
      rw [if_pos rfl]
      simpa using hcount
    · rw [if_neg hsink]
      simpa [Ne.symm hsink] using hcount
  noOther := h.consumed_subset
  sinkProduced := by
    have hmem := h.finish_subset (List.mem_singleton.mpr rfl)
    rcases List.mem_append.mp hmem with hmem | hmem
    · exact absurd (List.mem_singleton.mp hmem) hne
    · exact hmem
  ordered := h.fed
  reached node hnode := ⟨h.fed.inputs_ne_nil node hnode, h.reached node hnode⟩

end FilterGraph
end Sys
