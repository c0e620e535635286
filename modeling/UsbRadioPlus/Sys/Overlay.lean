import Mathlib.Data.List.Nodup
import Mathlib.Data.List.Perm.Basic
import Mathlib.Logic.Function.Basic
import UsbRadioPlus.Rust.BTreeMap

/-!
# Tolerant overlays

A store has a value for every field. An assignment of an overlay sets one field, or it is reported and
sets nothing; a report may quote the value that the field keeps. When a name is given several times,
`firsts` are the assignments that count.

* `walk_eq_ok_iff`: the loop over an overlay gets to its end exactly if the assignments of one name agree,
  and then it has made those of `firsts`.
* `run_store`: a field has the value that an assignment gives to it, or the one that it had.
* `run_reports`: the reports are those of the single assignments, each as if it stood alone.
* `run_perm`: neither depends on the order.

The last two need that no two assignments are about one field.
-/

namespace Sys

/-! ## The assignments that count -/

section Firsts

variable {α β K : Type} [DecidableEq K] (key : α → K)

/-- The first element of each key that has not been seen. -/
def firstsFrom (seen : List K) : List α → List α
  | [] => []
  | a :: l => if key a ∈ seen then firstsFrom seen l else a :: firstsFrom (key a :: seen) l

/-- The first assignment of every name. -/
def firsts (l : List α) : List α := firstsFrom key [] l

variable {key} {seen : List K} {l l' : List α} {a : α}

theorem mem_firstsFrom (h : a ∈ firstsFrom key seen l) : a ∈ l ∧ key a ∉ seen := by
  induction l generalizing seen with
  | nil => cases h
  | cons b l ih =>
    rw [firstsFrom] at h
    split at h
    · exact (ih h).imp_left (List.mem_cons_of_mem b)
    · rename_i hb
      rcases List.mem_cons.mp h with rfl | h
      · exact ⟨List.mem_cons_self, hb⟩
      · exact ⟨List.mem_cons_of_mem b (ih h).1, fun hseen => (ih h).2 (List.mem_cons_of_mem _ hseen)⟩

theorem mem_of_mem_firsts (h : a ∈ firsts key l) : a ∈ l := (mem_firstsFrom h).1

theorem nodup_map_firstsFrom (seen : List K) (l : List α) :
    ((firstsFrom key seen l).map key).Nodup := by
  induction l generalizing seen with
  | nil => exact .nil
  | cons b l ih =>
    rw [firstsFrom]
    split
    · exact ih seen
    · refine List.nodup_cons.mpr ⟨fun hmem => ?_, ih _⟩
      obtain ⟨c, hc, hkey⟩ := List.mem_map.mp hmem
      exact (mem_firstsFrom hc).2 (hkey ▸ List.mem_cons_self)

theorem exists_firstsFrom (h : a ∈ l) (hseen : key a ∉ seen) :
    ∃ b ∈ firstsFrom key seen l, key b = key a := by
  induction l generalizing seen with
  | nil => cases h
  | cons b l ih =>
    rw [firstsFrom]
    by_cases hb : key b ∈ seen
    · rw [if_pos hb]
      rcases List.mem_cons.mp h with rfl | h
      · exact absurd hb hseen
      · exact ih h hseen
    · rw [if_neg hb]
      by_cases hkey : key b = key a
      · exact ⟨b, List.mem_cons_self, hkey⟩
      · have hmem : a ∈ l := (List.mem_cons.mp h).resolve_left fun hab => hkey (hab ▸ rfl)
        have hnew : key a ∉ key b :: seen := fun hmem =>
          (List.mem_cons.mp hmem).elim (fun heq => hkey heq.symm) hseen
        obtain ⟨c, hc, hck⟩ := ih hmem hnew
        exact ⟨c, List.mem_cons_of_mem _ hc, hck⟩

theorem exists_firsts (key : α → K) (h : a ∈ l) : ∃ b ∈ firsts key l, key b = key a :=
  exists_firstsFrom h List.not_mem_nil

/-- No name is given twice: every assignment counts. -/
theorem firsts_of_nodup (h : (l.map key).Nodup) : firsts key l = l := by
  have hfrom (seen : List K) (hseen : ∀ a ∈ l, key a ∉ seen) : firstsFrom key seen l = l := by
    induction l generalizing seen with
    | nil => rfl
    | cons b l ih =>
      obtain ⟨hb, hl⟩ := List.nodup_cons.mp h
      rw [firstsFrom, if_neg (hseen b List.mem_cons_self), ih hl _ fun a ha => ?_]
      refine fun hmem => (List.mem_cons.mp hmem).elim (fun heq => hb ?_)
        (hseen a (List.mem_cons_of_mem b ha))
      exact heq ▸ List.mem_map_of_mem ha
  exact hfrom [] fun a _ => List.not_mem_nil

theorem mem_map_firsts {f : α → β} {x : K × β}
    (hf : ∀ a ∈ l, ∀ b ∈ l, key a = key b → f a = f b) :
    x ∈ (firsts key l).map (fun a => (key a, f a)) ↔ x ∈ l.map fun a => (key a, f a) := by
  constructor
  · intro h
    obtain ⟨a, ha, rfl⟩ := List.mem_map.mp h
    exact List.mem_map_of_mem (mem_of_mem_firsts ha)
  · intro h
    obtain ⟨a, ha, rfl⟩ := List.mem_map.mp h
    obtain ⟨b, hb, hkey⟩ := exists_firsts key ha
    refine List.mem_map.mpr ⟨b, hb, ?_⟩
    rw [hkey, hf b (mem_of_mem_firsts hb) a ha hkey]

/-- What the names of a list stand for does not depend on its order. -/
theorem perm_map_firsts {f : α → β} (hf : ∀ a ∈ l, ∀ b ∈ l, key a = key b → f a = f b)
    (h : l.Perm l') : ((firsts key l).map f).Perm ((firsts key l').map f) := by
  have hnodup (l : List α) : ((firsts key l).map fun a => (key a, f a)).Nodup := by
    refine List.Nodup.of_map Prod.fst ?_
    rw [List.map_map]
    exact nodup_map_firstsFrom [] l
  have hf' : ∀ a ∈ l', ∀ b ∈ l', key a = key b → f a = f b := fun a ha b hb =>
    hf a (h.mem_iff.mpr ha) b (h.mem_iff.mpr hb)
  have hpairs : ((firsts key l).map fun a => (key a, f a)).Perm
      ((firsts key l').map fun a => (key a, f a)) := by
    refine (List.perm_ext_iff_of_nodup (hnodup l) (hnodup l')).mpr fun x => ?_
    rw [mem_map_firsts hf, mem_map_firsts hf']
    exact (h.map _).mem_iff
  have hmap := hpairs.map Prod.snd
  rwa [List.map_map, List.map_map] at hmap

end Firsts

/-! ## The loop -/

section Walk

variable {α A B K S : Type} [LinearOrder K] {key : α → K} {value : α → A} {same : A → B}

/-- The assignments of one name agree, with each other and with what was seen. -/
def Agree (key : α → K) (value : α → A) (same : A → B) (seen : Rust.BTreeMap K A) (l : List α) : Prop :=
  (∀ a ∈ l, ∀ v, seen.get? (key a) = some v → same v = same (value a)) ∧
    ∀ a ∈ l, ∀ b ∈ l, key a = key b → same (value a) = same (value b)

theorem agree_cons {seen : Rust.BTreeMap K A} {a : α} {l : List α}
    (hseen : ∀ b ∈ a :: l, ∀ v, seen.get? (key b) = some v → same v = same (value b))
    (hhead : ∀ b ∈ l, key a = key b → same (value a) = same (value b))
    (hl : ∀ b ∈ l, ∀ c ∈ l, key b = key c → same (value b) = same (value c)) :
    Agree key value same seen (a :: l) := by
  refine ⟨hseen, fun b hb c hc hkey => ?_⟩
  rcases List.mem_cons.mp hb with rfl | hb' <;> rcases List.mem_cons.mp hc with rfl | hc'
  · rfl
  · exact hhead c hc' hkey
  · exact (hhead b hb' hkey.symm).symm
  · exact hl b hb' c hc' hkey

theorem agree_seen {seen : Rust.BTreeMap K A} {a : α} {l : List α} {v : A}
    (hv : seen.get? (key a) = some v) :
    Agree key value same seen (a :: l) ↔ same v = same (value a) ∧ Agree key value same seen l := by
  constructor
  · rintro ⟨hseen, hl⟩
    exact ⟨hseen a List.mem_cons_self v hv, fun b hb => hseen b (List.mem_cons_of_mem a hb),
      fun b hb c hc => hl b (List.mem_cons_of_mem a hb) c (List.mem_cons_of_mem a hc)⟩
  · rintro ⟨hva, hseen, hl⟩
    refine agree_cons (fun b hb w hw => ?_)
      (fun b hb hkey => hva.symm.trans (hseen b hb v (hkey ▸ hv))) hl
    rcases List.mem_cons.mp hb with rfl | hb'
    · exact Option.some.inj (hv.symm.trans hw) ▸ hva
    · exact hseen b hb' w hw

theorem agree_new {seen : Rust.BTreeMap K A} {a : α} {l : List α}
    (hnew : seen.get? (key a) = none) :
    Agree key value same seen (a :: l) ↔
      Agree key value same (seen.insert (key a) (value a)) l := by
  constructor
  · rintro ⟨hseen, hl⟩
    refine ⟨fun b hb v hv => ?_,
      fun b hb c hc => hl b (List.mem_cons_of_mem a hb) c (List.mem_cons_of_mem a hc)⟩
    rw [Rust.BTreeMap.get?_insert] at hv
    split at hv
    · rename_i hkey
      obtain rfl := Option.some.inj hv
      exact hl a List.mem_cons_self b (List.mem_cons_of_mem a hb) hkey.symm
    · exact hseen b (List.mem_cons_of_mem a hb) v hv
  · rintro ⟨hseen, hl⟩
    refine agree_cons (fun b hb v hv => ?_) (fun b hb hkey => hseen b hb (value a) ?_) hl
    · have hkey : key b ≠ key a := fun hkey => by
        rw [hkey, hnew] at hv
        cases hv
      rcases List.mem_cons.mp hb with rfl | hb'
      · exact absurd rfl hkey
      · exact hseen b hb' v (by rwa [Rust.BTreeMap.get?_insert, if_neg hkey])
    · rw [Rust.BTreeMap.get?_insert, if_pos hkey.symm]

variable [DecidableEq K] [DecidableEq B] {apply : S → α → S}

/-- The loop over an overlay. It has the values of the names that it has `seen`; another value for one of
these ends it. -/
def walk (key : α → K) (value : α → A) (same : A → B) (apply : S → α → S) :
    (seen : Rust.BTreeMap K A) → List α → S → Except (K × A × A) S
  | _, [], s => .ok s
  | seen, a :: l, s =>
    match seen.get? (key a) with
    | some previous =>
      if same previous = same (value a) then walk key value same apply seen l s
      else .error (key a, previous, value a)
    | none => walk key value same apply (seen.insert (key a) (value a)) l (apply s a)

theorem walk_from (seen : Rust.BTreeMap K A) (keys : List K) (l : List α) (s s' : S)
    (hkeys : ∀ k, k ∈ keys ↔ (seen.get? k).isSome) :
    walk key value same apply seen l s = .ok s' ↔
      Agree key value same seen l ∧ s' = (firstsFrom key keys l).foldl apply s := by
  induction l generalizing seen keys s with
  | nil =>
    have hagree : Agree key value same seen [] :=
      ⟨fun a ha => absurd ha List.not_mem_nil, fun a ha => absurd ha List.not_mem_nil⟩
    rw [walk, Except.ok.injEq, firstsFrom, List.foldl_nil, eq_comm, and_iff_right hagree]
  | cons a l ih =>
    rw [walk, firstsFrom]
    cases hget : seen.get? (key a) with
    | some v =>
      have hmem : key a ∈ keys := (hkeys _).mpr (hget ▸ rfl)
      rw [agree_seen hget, if_pos hmem]
      by_cases hsame : same v = same (value a)
      · dsimp only
        rw [if_pos hsame, and_iff_right hsame]
        exact ih seen keys s hkeys
      · dsimp only
        rw [if_neg hsame]
        exact ⟨fun herror => (nomatch herror), fun hagree => absurd hagree.1.1 hsame⟩
    | none =>
      have hmem : key a ∉ keys := fun hmem => by
        have hsome := (hkeys _).mp hmem
        rw [hget] at hsome
        cases hsome
      have hkeys' (k : K) : k ∈ key a :: keys ↔
          ((seen.insert (key a) (value a)).get? k).isSome := by
        rw [List.mem_cons, hkeys, Rust.BTreeMap.get?_insert]
        by_cases hk : k = key a <;> simp [hk]
      rw [agree_new hget, if_neg hmem, List.foldl_cons]
      exact ih _ _ _ hkeys'

theorem walk_eq_ok_iff (key : α → K) (value : α → A) (same : A → B) (apply : S → α → S)
    (l : List α) (s s' : S) :
    walk key value same apply .empty l s = .ok s' ↔
      (∀ a ∈ l, ∀ b ∈ l, key a = key b → same (value a) = same (value b)) ∧
        s' = (firsts key l).foldl apply s := by
  have hagree : Agree key value same .empty l ↔
      ∀ a ∈ l, ∀ b ∈ l, key a = key b → same (value a) = same (value b) :=
    ⟨fun h => h.2, fun h => ⟨fun a _ v hv => (nomatch hv), h⟩⟩
  rw [walk_from .empty [] l s s' fun k => by simp, hagree]
  rfl

end Walk

/-! ## Assignments -/

/-- What one assignment does to a store. -/
inductive Effect {T : Type} (V : T → Type) (D : Type) where
  | nothing
  | report (d : D)
  /-- The value for a field, or a report that may quote the value that stays. -/
  | assign (t : T) (result : Except (V t → D) (V t))

namespace Effect

variable {T D D' : Type} {V : T → Type}

/-- The field that the assignment is about. -/
def field? : Effect V D → Option T
  | .nothing | .report _ => none
  | .assign t _ => some t

/-- What an effect reports. -/
def report? (e : Effect V D) (s : ∀ t, V t) : Option D :=
  match e with
  | .nothing | .assign _ (.ok _) => none
  | .report d => some d
  | .assign t (.error d) => some (d (s t))

/-- The same assignment with its report rewritten. -/
def mapReport (g : D → D') : Effect V D → Effect V D'
  | .nothing => .nothing
  | .report d => .report (g d)
  | .assign t result => .assign t (result.mapError fun d v => g (d v))

@[simp] theorem field?_mapReport (g : D → D') (e : Effect V D) :
    (e.mapReport g).field? = e.field? := by
  cases e <;> rfl

theorem report?_mapReport (g : D → D') (e : Effect V D) (s : ∀ t, V t) :
    (e.mapReport g).report? s = (e.report? s).map g := by
  rcases e with - | d | ⟨t, d | v⟩ <;> rfl

/-- A report quotes only the field of its assignment. -/
theorem report?_congr {e : Effect V D} {s s' : ∀ t, V t}
    (h : ∀ t, e.field? = some t → s t = s' t) : e.report? s = e.report? s' := by
  rcases e with - | d | ⟨t, d | v⟩
  · rfl
  · rfl
  · exact congrArg (fun v => some (d v)) (h t rfl)
  · rfl

/-- No two assignments are about one field. -/
def Apart (es : List (Effect V D)) : Prop := (es.filterMap field?).Nodup

/-- One assignment at most is about the field. -/
def Once (t : T) (es : List (Effect V D)) : Prop :=
  es.Pairwise fun e e' => e.field? = some t → e'.field? ≠ some t

variable {e : Effect V D} {es es' : List (Effect V D)} {t : T}

theorem Apart.of_cons (h : Apart (e :: es)) : Apart es := by
  cases he : e.field? with
  | none => rwa [Apart, List.filterMap_cons_none he] at h
  | some t =>
    rw [Apart, List.filterMap_cons_some he] at h
    exact (List.nodup_cons.mp h).2

theorem Apart.head (h : Apart (e :: es)) (he : e.field? = some t) :
    ∀ e' ∈ es, e'.field? ≠ some t := by
  rw [Apart, List.filterMap_cons_some he] at h
  exact fun e' he' heq => (List.nodup_cons.mp h).1 (List.mem_filterMap.mpr ⟨e', he', heq⟩)

theorem Apart.once (h : Apart es) (t : T) : Once t es := by
  induction es with
  | nil => exact .nil
  | cons e es ih => exact .cons (fun e' he' ht => h.head ht e' he') (ih h.of_cons)

theorem Apart.perm (h : Apart es) (hperm : es.Perm es') : Apart es' :=
  (hperm.filterMap field?).nodup_iff.mp h

theorem Apart.mapReport (h : Apart es) (g : D → D') : Apart (es.map (Effect.mapReport g)) := by
  rw [Apart, List.filterMap_map]
  exact (List.filterMap_congr fun e _ => field?_mapReport g e).symm ▸ h

/-- The names of the assignments tell their fields apart. -/
theorem apart_map {α K : Type} {key : α → K} {f : α → Effect V D} {l : List α}
    (h : (l.map key).Nodup)
    (hfield : ∀ a ∈ l, ∀ b ∈ l, ∀ t, (f a).field? = some t → (f b).field? = some t → key a = key b) :
    Apart (l.map f) := by
  induction l with
  | nil => exact .nil
  | cons a l ih =>
    obtain ⟨ha, hl⟩ := List.nodup_cons.mp h
    have hrest : Apart (l.map f) := ih hl fun b hb c hc =>
      hfield b (List.mem_cons_of_mem a hb) c (List.mem_cons_of_mem a hc)
    cases he : (f a).field? with
    | none => rwa [Apart, List.map_cons, List.filterMap_cons_none he]
    | some t =>
      rw [Apart, List.map_cons, List.filterMap_cons_some he]
      refine List.nodup_cons.mpr ⟨fun hmem => ha ?_, hrest⟩
      obtain ⟨e, he', ht⟩ := List.mem_filterMap.mp hmem
      obtain ⟨b, hb, rfl⟩ := List.mem_map.mp he'
      rw [hfield a List.mem_cons_self b (List.mem_cons_of_mem a hb) t he ht]
      exact List.mem_map_of_mem hb

variable [DecidableEq T]

/-- The value that the assignment gives to the field. -/
def value? (e : Effect V D) (t : T) : Option (V t) :=
  match e with
  | .assign t' (.ok v) => if h : t' = t then some (h ▸ v) else none
  | _ => none

/-- The values behind an effect. -/
def apply (e : Effect V D) (s : ∀ t, V t) : ∀ t, V t :=
  match e with
  | .assign t (.ok v) => Function.update s t v
  | _ => s

@[simp] theorem value?_mapReport (g : D → D') (e : Effect V D) (t : T) :
    (e.mapReport g).value? t = e.value? t := by
  rcases e with - | d | ⟨t, d | v⟩ <;> rfl

theorem field?_of_value? {v : V t} (h : e.value? t = some v) :
    e.field? = some t := by
  rcases e with - | d | ⟨t', d | v'⟩
  · cases h
  · cases h
  · cases h
  · rw [value?] at h
    split at h
    · rename_i heq
      rw [field?, heq]
    · cases h

theorem apply_eq (e : Effect V D) (s : ∀ t, V t) (t : T) :
    e.apply s t = (e.value? t).getD (s t) := by
  rcases e with - | d | ⟨t', d | v⟩
  · rfl
  · rfl
  · rfl
  · rw [value?]
    by_cases h : t' = t
    · subst h
      rw [apply, Function.update_self, dif_pos rfl, Option.getD_some]
    · rw [apply, Function.update_of_ne (Ne.symm h), dif_neg h, Option.getD_none]

end Effect

/-! ## An overlay -/

namespace Effect

variable {T D D' : Type} {V : T → Type} [DecidableEq T]

/-- One assignment, with the reports so far. -/
def step (s : (∀ t, V t) × List D) (e : Effect V D) : (∀ t, V t) × List D :=
  (e.apply s.1, s.2 ++ (e.report? s.1).toList)

/-- The assignments of an overlay, one after the other. -/
def run (s : ∀ t, V t) (es : List (Effect V D)) : (∀ t, V t) × List D := es.foldl step (s, [])

theorem run_from (s : ∀ t, V t) (ds : List D) (es : List (Effect V D)) :
    es.foldl step (s, ds) = ((run s es).1, ds ++ (run s es).2) := by
  induction es generalizing s ds with
  | nil => rw [List.foldl_nil, run, List.foldl_nil, List.append_nil]
  | cons e es ih =>
    rw [run, List.foldl_cons, List.foldl_cons, step, step, ih, ih (e.apply s), List.nil_append,
      List.append_assoc]

theorem run_cons (s : ∀ t, V t) (e : Effect V D) (es : List (Effect V D)) :
    run s (e :: es) =
      ((run (e.apply s) es).1, (e.report? s).toList ++ (run (e.apply s) es).2) := by
  rw [run, List.foldl_cons, step, run_from, List.nil_append]

theorem run_mapReport (g : D → D') (s : ∀ t, V t) (es : List (Effect V D)) :
    run s (es.map (mapReport g)) = ((run s es).1, (run s es).2.map g) := by
  induction es generalizing s with
  | nil => rfl
  | cons e es ih =>
    have happly : (e.mapReport g).apply s = e.apply s :=
      funext fun t => by rw [apply_eq, apply_eq, value?_mapReport]
    rw [List.map_cons, run_cons, run_cons, happly, ih, report?_mapReport]
    cases e.report? s <;> rfl

variable {s : ∀ t, V t} {e : Effect V D} {es es' : List (Effect V D)} {t : T}

/-- A field that no assignment is about stays. -/
theorem run_other (s : ∀ t, V t) (h : ∀ e ∈ es, e.field? ≠ some t) : (run s es).1 t = s t := by
  induction es generalizing s with
  | nil => rfl
  | cons e es ih =>
    rw [run_cons, ih _ fun e' he' => h e' (List.mem_cons_of_mem e he'), apply_eq]
    cases hv : e.value? t with
    | none => rfl
    | some v => exact absurd (field?_of_value? hv) (h e List.mem_cons_self)

/-- What the values of the store and of the assignments have in common holds of every value. -/
theorem run_forall {P : ∀ t, V t → Prop} (hs : ∀ t, P t (s t))
    (hes : ∀ e ∈ es, ∀ t v, e.value? t = some v → P t v) (t : T) : P t ((run s es).1 t) := by
  induction es generalizing s with
  | nil => exact hs t
  | cons e es ih =>
    rw [run_cons]
    refine ih (fun t => ?_) fun e' he' => hes e' (List.mem_cons_of_mem e he')
    rw [apply_eq]
    cases hv : e.value? t with
    | none => exact hs t
    | some v => exact hes e List.mem_cons_self t v hv

/-- A field that one assignment is about has the value that it is given, or the one that it had. -/
theorem run_once (s : ∀ t, V t) (h : Once t es) :
    (run s es).1 t = (es.findSome? (·.value? t)).getD (s t) := by
  induction es generalizing s with
  | nil => rfl
  | cons e es ih =>
    obtain ⟨hhead, hrest⟩ := List.pairwise_cons.mp h
    rw [run_cons, List.findSome?_cons]
    cases hv : e.value? t with
    | none => rw [ih _ hrest, apply_eq, hv, Option.getD_none]
    | some v =>
      rw [run_other _ fun e' he' => hhead e' he' (field?_of_value? hv), apply_eq, hv]

theorem run_store (s : ∀ t, V t) (h : Apart es) (t : T) :
    (run s es).1 t = (es.findSome? (·.value? t)).getD (s t) := run_once s (h.once t)

/-- An assignment is reported as if it stood alone. -/
theorem run_reports (s : ∀ t, V t) (h : Apart es) :
    (run s es).2 = es.filterMap (·.report? s) := by
  induction es generalizing s with
  | nil => rfl
  | cons e es ih =>
    have hrest : es.filterMap (·.report? (e.apply s)) = es.filterMap (·.report? s) := by
      refine List.filterMap_congr fun e' he' => report?_congr fun t ht => ?_
      rw [apply_eq]
      cases hv : e.value? t with
      | none => rfl
      | some v => exact absurd ht (h.head (field?_of_value? hv) e' he')
    rw [run_cons, ih _ h.of_cons, hrest, List.filterMap_cons]
    cases e.report? s <;> rfl

theorem findSome?_value? (h : Apart es) {v : V t} :
    es.findSome? (·.value? t) = some v ↔ ∃ e ∈ es, e.value? t = some v := by
  induction es with
  | nil => simp
  | cons e es ih =>
    rw [List.findSome?_cons]
    cases hv : e.value? t with
    | none => simp [hv, ih h.of_cons]
    | some w =>
      constructor
      · rintro ⟨⟩
        exact ⟨e, List.mem_cons_self, hv⟩
      · rintro ⟨e', he', hv'⟩
        rcases List.mem_cons.mp he' with rfl | he'
        · exact hv.symm.trans hv'
        · exact absurd (field?_of_value? hv') (h.head (field?_of_value? hv) e' he')

/-- The order of the assignments makes no difference. -/
theorem run_perm (s : ∀ t, V t) (h : Apart es) (hperm : es.Perm es') :
    (run s es).1 = (run s es').1 ∧ (run s es).2.Perm (run s es').2 := by
  have h' := h.perm hperm
  constructor
  · funext t
    rw [run_store s h, run_store s h']
    congr 1
    refine Option.ext fun v => ?_
    rw [findSome?_value? h, findSome?_value? h']
    simp only [hperm.mem_iff]
  · rw [run_reports s h, run_reports s h']
    exact hperm.filterMap _

/-! ## The loop over assignments -/

section Walk

variable {α A B K : Type} [LinearOrder K] [DecidableEq K] [DecidableEq B]

/-- The loop gets to its end exactly if the assignments of one name agree, and then it has run the first
ones. -/
theorem walk_step_eq_ok_iff (key : α → K) (value : α → A) (same : A → B) (f : α → Effect V D)
    (l : List α) (s : ∀ t, V t) (ds : List D) (r : (∀ t, V t) × List D) :
    walk key value same (fun state a => step state (f a)) .empty l (s, ds) = .ok r ↔
      (∀ a ∈ l, ∀ b ∈ l, key a = key b → same (value a) = same (value b)) ∧
        r = ((run s ((firsts key l).map f)).1, ds ++ (run s ((firsts key l).map f)).2) := by
  rw [walk_eq_ok_iff, ← List.foldl_map, run_from]

end Walk

end Effect

end Sys
