import CommandUpgrade.Proofs.Memory.Shows
import CommandUpgrade.Proofs.Outcome
import Mathlib.Data.Option.Basic

/-!
# Programs on memory

A program on memory runs as an outcome does: it ends in the same fault, or its result stands in some
relation to that of the outcome. On the way it changes no object but those at some addresses
(`Heap.Runs`). The steps of a program are put together with `Heap.Runs.bind`.
-/

namespace CommandUpgrade

/-! ## Memories that keep objects -/

namespace Memory

/-- All objects but the changed ones are there as before. -/
structure Keeps (changed : List Address) (memory memory' : Memory) : Prop where
  length_le : memory.length ≤ memory'.length
  same : ∀ address object, address ∉ changed → memory[address]? = some object →
    memory'[address]? = some object

/-- The addresses are in use. -/
def Below (addresses : List Address) (memory : Memory) : Prop := ∀ a ∈ addresses, a < memory.length

variable {changed changed' addresses : List Address} {memory memory' memory'' : Memory}

theorem Keeps.refl (changed : List Address) (memory : Memory) : Keeps changed memory memory :=
  ⟨Nat.le_refl _, fun _ _ _ h => h⟩

theorem Keeps.trans (h : Keeps changed memory memory') (h' : Keeps changed memory' memory'') :
    Keeps changed memory memory'' :=
  ⟨h.length_le.trans h'.length_le, fun a object ha hobject =>
    h'.same a object ha (h.same a object ha hobject)⟩

theorem Keeps.mono (h : Keeps changed memory memory') (hsub : changed ⊆ changed') :
    Keeps changed' memory memory' :=
  ⟨h.length_le, fun a object ha => h.same a object fun hmem => ha (hsub hmem)⟩

/-- Later changes of objects that were new do not count. -/
theorem Keeps.trans_fresh (h : Keeps changed memory memory') (h' : Keeps changed' memory' memory'')
    (hfresh : ∀ a ∈ changed', a ∈ changed ∨ memory.length ≤ a) : Keeps changed memory memory'' := by
  refine ⟨h.length_le.trans h'.length_le, fun a object ha hobject => ?_⟩
  refine h'.same a object (fun hmem => ?_) (h.same a object ha hobject)
  rcases hfresh a hmem with hold | hnew
  · exact ha hold
  · exact absurd (List.getElem?_eq_some_iff.1 hobject).1 (Nat.not_lt.2 hnew)

theorem keeps_append (memory more : Memory) : Keeps [] memory (memory ++ more) := by
  refine ⟨by simp, fun a object _ hobject => ?_⟩
  rw [List.getElem?_append_left (List.getElem?_eq_some_iff.1 hobject).1]
  exact hobject

theorem keeps_modify (memory : Memory) (address : Address) (change : Object → Object) :
    Keeps [address] memory (memory.modify address change) := by
  refine ⟨(List.length_modify _ _ _).ge, fun a object ha hobject => ?_⟩
  rw [List.getElem?_modify_ne _ _ (Ne.symm (List.ne_of_not_mem_cons ha)), hobject]

/-- Memory that keeps all objects is the memory with more objects behind. -/
theorem Keeps.prefix (h : Keeps [] memory memory') : memory <+: memory' := by
  refine List.prefix_iff_getElem?.2 fun i hi => ?_
  exact h.same i memory[i] List.not_mem_nil (List.getElem?_eq_getElem hi)

/-- Changes of new objects do not count. -/
theorem Keeps.of_fresh (h : Keeps changed memory memory')
    (hfresh : ∀ a ∈ changed, a ∈ changed' ∨ memory.length ≤ a) : Keeps changed' memory memory' :=
  (Keeps.refl changed' memory).trans_fresh h hfresh

theorem Below.keeps (h : Below addresses memory) (hkeeps : Keeps changed memory memory') :
    Below addresses memory' := fun a ha => (h a ha).trans_le hkeeps.length_le

theorem Below.alloc (h : Below addresses memory) (object : Object) :
    Below (memory.length :: addresses) (memory ++ [object]) := by
  have hlength : (memory ++ [object]).length = memory.length + 1 := List.length_append
  refine List.forall_mem_cons.2 ⟨?_, fun a ha => ?_⟩
  · rw [hlength]
    exact Nat.lt_succ_self _
  · rw [hlength]
    exact Nat.lt_succ_of_lt (h a ha)

end Memory

/-! ## Fields and entries -/

namespace Fields

variable {R R' : Text → Value → Tag → Prop} {fields : Fields} {entries : Entries} {value : Value}
  {tag : Tag}

theorem set_of_lookup {name : Text} (h : fields.lookup name = some value) :
    fields.set name value = fields := by
  induction fields with
  | nil => cases h
  | cons field rest ih =>
    obtain ⟨n, v⟩ := field
    rw [List.lookup_cons] at h
    unfold Fields.set
    split
    case isTrue hname =>
      subst hname
      rw [beq_self_eq_true] at h
      obtain rfl : v = value := Option.some.inj h
      rfl
    case isFalse hname =>
      rw [beq_false_of_ne (Ne.symm hname)] at h
      rw [ih h]

theorem Match.imp (h : fields.Match R entries)
    (himp : ∀ name value tag, name ∈ entries.names → R name value tag → R' name value tag) :
    fields.Match R' entries := by
  induction h with
  | nil => exact .nil
  | @cons field entry _ _ hfield _ ih =>
    obtain ⟨n, v⟩ := field
    obtain ⟨n', t⟩ := entry
    obtain ⟨rfl, hvalue⟩ : n = n' ∧ R n v t := hfield
    exact .cons ⟨rfl, himp n v t List.mem_cons_self hvalue⟩
      (ih fun n v t hn => himp n v t (List.mem_cons_of_mem _ hn))

theorem Match.lookup (h : fields.Match R entries) (name : Text) :
    Option.Rel (R name) (fields.lookup name) (Entries.get? name entries) := by
  unfold Entries.get?
  induction h with
  | nil => exact .none
  | @cons field entry _ _ hfield _ ih =>
    obtain ⟨n, v⟩ := field
    obtain ⟨n', t⟩ := entry
    obtain ⟨rfl, hvalue⟩ : n = n' ∧ R n v t := hfield
    rw [List.lookup_cons, List.lookup_cons]
    by_cases hname : name = n
    · subst hname
      rw [beq_self_eq_true]
      exact .some hvalue
    · rw [beq_false_of_ne hname]
      exact ih

/-- Names are picked from fields as from entries. -/
theorem Match.filter (h : fields.Match R entries) (picks : Text → Bool) :
    Fields.Match R (fields.filter fun field => picks field.1) (entries.filter fun entry => picks entry.1) := by
  induction h with
  | nil => exact .nil
  | @cons field entry _ _ hfield _ ih =>
    rw [List.filter_cons, List.filter_cons, hfield.1]
    split
    case isTrue => exact .cons hfield ih
    case isFalse => exact ih

theorem Match.erase (h : fields.Match R entries) (name : Text) :
    (fields.erase name).Match R (entries.erase name) := h.filter fun n => n ≠ name

theorem Match.set (h : fields.Match R entries) {name : Text} (hvalue : R name value tag) :
    (fields.set name value).Match R (entries.set name tag) := by
  induction h with
  | nil => exact .cons ⟨rfl, hvalue⟩ .nil
  | @cons field entry _ _ hfield hrest ih =>
    obtain ⟨n, v⟩ := field
    obtain ⟨n', t⟩ := entry
    obtain ⟨rfl, hold⟩ : n = n' ∧ R n v t := hfield
    unfold Fields.set Entries.set
    split
    case isTrue hname => exact .cons ⟨rfl, hname ▸ hvalue⟩ hrest
    case isFalse => exact .cons ⟨rfl, hold⟩ ih

/-- Where names are distinct, the field of a name is the only one that has to be related anew. -/
theorem Match.change (h : fields.Match R entries) (hnodup : entries.names.Nodup) {name : Text}
    (hvalue : R' name value tag) (hothers : ∀ n v t, n ≠ name → R n v t → R' n v t) :
    (fields.set name value).Match R' (entries.set name tag) := by
  induction h with
  | nil => exact .cons ⟨rfl, hvalue⟩ .nil
  | @cons field entry fields entries hfield hrest ih =>
    obtain ⟨n, v⟩ := field
    obtain ⟨n', t⟩ := entry
    obtain ⟨rfl, hold⟩ : n = n' ∧ R n v t := hfield
    obtain ⟨hfirst, hnodup⟩ := List.nodup_cons.1 hnodup
    unfold Fields.set Entries.set
    split
    case isTrue hname =>
      subst hname
      refine .cons ⟨rfl, hvalue⟩ (Match.imp hrest fun n v t hn hold => hothers n v t ?_ hold)
      rintro rfl
      exact hfirst hn
    case isFalse hname => exact .cons ⟨rfl, hothers _ _ _ hname hold⟩ (ih hnodup)

end Fields

/-- The compound at an address has fields that show these entries. The address itself may be open. -/
def HoldsAt (openAt : List Address) (memory : Memory) (address : Address) (entries : Entries) : Prop :=
  ∃ fields, memory[address]? = some (.compound fields) ∧
    Fields.Match (fun _ => Shows openAt memory) fields entries

section Keeps

variable {openAt openAt' changed : List Address} {memory memory' : Memory} {value : Value} {tag : Tag}
  {address : Address} {entries : Entries}

theorem Shows.keeps (h : Shows openAt memory value tag) (hkeeps : memory.Keeps changed memory')
    (hsub : changed ⊆ openAt) : Shows openAt memory' value tag :=
  h.imp fun _ _ hopen hobject =>
    ⟨hopen, hkeeps.same _ _ (fun hmem => hopen (hsub hmem)) hobject⟩

/-- Addresses that are in no object may be opened, and any may be closed. -/
theorem Shows.reopen (h : Shows openAt memory value tag)
    (hopen : ∀ a ∈ openAt', a ∈ openAt ∨ memory.length ≤ a) : Shows openAt' memory value tag := by
  refine h.imp fun a object ha hobject => ⟨fun hmem => ?_, hobject⟩
  rcases hopen a hmem with hold | hfresh
  · exact ha hold
  · exact absurd (List.getElem?_eq_some_iff.1 hobject).1 (Nat.not_lt.2 hfresh)

theorem HoldsAt.keeps (h : HoldsAt openAt memory address entries) (hkeeps : memory.Keeps changed memory')
    (hsub : changed ⊆ openAt) (haddress : address ∉ changed) : HoldsAt openAt memory' address entries := by
  obtain ⟨fields, hobject, hfields⟩ := h
  exact ⟨fields, hkeeps.same _ _ haddress hobject,
    hfields.imp fun _ _ _ _ hshows => hshows.keeps hkeeps hsub⟩

theorem HoldsAt.reopen (h : HoldsAt openAt memory address entries)
    (hopen : ∀ a ∈ openAt', a ∈ openAt ∨ memory.length ≤ a) : HoldsAt openAt' memory address entries := by
  obtain ⟨fields, hobject, hfields⟩ := h
  exact ⟨fields, hobject, hfields.imp fun _ _ _ _ hshows => hshows.reopen hopen⟩

theorem HoldsAt.put (h : HoldsAt openAt memory address entries) (haddress : address ∈ openAt)
    (hvalue : Shows openAt memory value tag) (name : Text) :
    HoldsAt openAt (memory.modify address (Object.mapFields (Fields.set name value))) address
      (entries.set name tag) := by
  obtain ⟨fields, hobject, hfields⟩ := h
  have hkeeps := Memory.keeps_modify memory address (Object.mapFields (Fields.set name value))
  have hsub : [address] ⊆ openAt := List.cons_subset.2 ⟨haddress, List.nil_subset _⟩
  refine ⟨Fields.set name value fields, ?_, ?_⟩
  · rw [List.getElem?_modify_eq, hobject]
    rfl
  · exact (hfields.set hvalue).imp fun _ _ _ _ hshows => hshows.keeps hkeeps hsub

theorem shows_compound_iff :
    Shows openAt memory (.ref address) (.compound entries) ↔
      address ∉ openAt ∧ HoldsAt openAt memory address entries := by
  rw [shows_ref_iff]
  refine and_congr_right fun _ => ⟨?_, ?_⟩
  · rintro ⟨object, hobject, hdisplays⟩
    cases hdisplays with
    | compound hfields => exact ⟨_, hobject, hfields⟩
  · rintro ⟨fields, hobject, hfields⟩
    exact ⟨_, hobject, .compound hfields⟩

theorem shows_list_iff {tags : List Tag} :
    Shows openAt memory (.ref address) (.list tags) ↔
      address ∉ openAt ∧ ∃ items, memory[address]? = some (.list items) ∧
        List.Forall₂ (Shows openAt memory) items tags := by
  rw [shows_ref_iff]
  refine and_congr_right fun _ => ⟨?_, ?_⟩
  · rintro ⟨object, hobject, hdisplays⟩
    cases hdisplays with
    | list hitems => exact ⟨_, hobject, hitems⟩
  · rintro ⟨items, hobject, hitems⟩
    exact ⟨_, hobject, .list hitems⟩

end Keeps

/-! ## Programs and outcomes -/

/-- Both end in the same fault, or give results that stand in a relation. -/
inductive Alike {α β : Type} (R : α → β → Prop) : Except Fault α → Outcome β → Prop
  | ok {a : α} {b : β} (h : R a b) : Alike R (.ok a) (.ok b)
  | error (fault : Fault) : Alike R (.error fault) (.error fault)

/-- A tag is an atom, or a list or a compound of smaller tags. -/
@[elab_as_elim]
theorem Tag.induct {motive : Tag → Prop} (null : motive .null) (bool : ∀ b, motive (.bool b))
    (int : ∀ n, motive (.int n)) (float : ∀ x, motive (.float x)) (text : ∀ s, motive (.text s))
    (list : ∀ items : List Tag, (∀ tag ∈ items, motive tag) → motive (.list items))
    (compound : ∀ entries : Entries, (∀ entry ∈ entries, motive entry.2) → motive (.compound entries))
    (tag : Tag) : motive tag := by
  generalize hn : sizeOf tag = n
  induction n using Nat.strong_induction_on generalizing tag with
  | _ n ih =>
    subst hn
    cases tag with
    | null => exact null
    | bool b => exact bool b
    | int n => exact int n
    | float x => exact float x
    | text s => exact text s
    | list items =>
      refine list items fun tag hmem => ih _ ?_ tag rfl
      have hlt := List.sizeOf_lt_of_mem hmem
      rw [Tag.list.sizeOf_spec]
      omega
    | compound entries =>
      refine compound entries fun entry hmem => ih _ ?_ entry.2 rfl
      have hlt := List.sizeOf_lt_of_mem hmem
      obtain ⟨name, tag⟩ := entry
      rw [Prod.mk.sizeOf_spec] at hlt
      rw [Tag.compound.sizeOf_spec]
      dsimp only
      omega

namespace Heap

open Memory

variable {α β γ δ : Type}

/-- What a program gives, and the memory after it. -/
def exec (program : Heap α) (memory : Memory) : Except Fault α × Memory :=
  StateT.run (ExceptT.run program) memory

theorem exec_bind_of_ok {program : Heap α} {memory memory' : Memory} {a : α}
    (h : exec program memory = (.ok a, memory')) (next : α → Heap β) :
    exec (program >>= next) memory = exec (next a) memory' := by
  unfold exec at h ⊢
  rw [ExceptT.run_bind, StateT.run_bind, h]
  rfl

theorem exec_bind_of_error {program : Heap α} {memory memory' : Memory} {fault : Fault}
    (h : exec program memory = (.error fault, memory')) (next : α → Heap β) :
    exec (program >>= next) memory = (.error fault, memory') := by
  unfold exec at h ⊢
  rw [ExceptT.run_bind, StateT.run_bind, h]
  rfl

theorem exec_lift (outcome : Outcome α) (memory : Memory) :
    exec (liftM outcome : Heap α) memory = (outcome, memory) := by
  cases outcome <;> rfl

theorem exec_get (memory : Memory) : exec (get : Heap Memory) memory = (.ok memory, memory) := rfl

/-! ### Reading -/

/-- The compound at an address that is not open holds these entries. -/
def Compound (openAt : List Address) (memory : Memory) (address : Address) (entries : Entries) : Prop :=
  address ∉ openAt ∧ HoldsAt openAt memory address entries

section Reading

variable {openAt : List Address} {memory : Memory} {address : Address} {entries : Entries}
  {value : Value} {tag : Tag}

theorem exec_view (h : Shows openAt memory value tag) :
    exec (view value) memory = (.ok tag, memory) := by
  unfold view
  rw [exec_bind_of_ok (exec_get memory), h.read_length]
  rfl

theorem exec_fields {fields : Fields} (h : memory[address]? = some (.compound fields)) :
    exec (Heap.fields address) memory = (.ok fields, memory) := by
  unfold Heap.fields
  rw [exec_bind_of_ok (exec_get memory), h]
  rfl

theorem exec_find (h : HoldsAt openAt memory address entries) (name : Text) :
    ∃ found, exec (find address name) memory = (.ok found, memory) ∧
      Option.Rel (Shows openAt memory) found (Entries.get? name entries) := by
  obtain ⟨fields, hobject, hfields⟩ := h
  exact ⟨_, exec_bind_of_ok (exec_fields hobject) _, hfields.lookup name⟩

theorem exec_compound? (h : Shows openAt memory value tag) :
    ∃ found, exec (compound? value) memory = (.ok found, memory) ∧
      Option.Rel (Compound openAt memory) found tag.entries? := by
  cases value with
  | ref address =>
    obtain ⟨hopen, object, hobject, hdisplays⟩ := shows_ref_iff.1 h
    unfold compound?
    dsimp only
    rw [exec_bind_of_ok (exec_get memory), hobject]
    cases hdisplays with
    | list hitems => exact ⟨none, rfl, .none⟩
    | compound hfields => exact ⟨some address, rfl, .some ⟨hopen, _, hobject, hfields⟩⟩
  | _ =>
    obtain ⟨depth, hread⟩ := h
    cases depth <;> cases hread <;> exact ⟨none, rfl, .none⟩

theorem exec_list? (h : Shows openAt memory value tag) :
    ∃ found, exec (list? value) memory = (.ok found, memory) ∧
      Option.Rel (List.Forall₂ (Shows openAt memory)) found tag.items? := by
  cases value with
  | ref address =>
    obtain ⟨hopen, object, hobject, hdisplays⟩ := shows_ref_iff.1 h
    unfold list?
    dsimp only
    rw [exec_bind_of_ok (exec_get memory), hobject]
    cases hdisplays with
    | list hitems => exact ⟨_, rfl, .some hitems⟩
    | compound hfields => exact ⟨none, rfl, .none⟩
  | _ =>
    obtain ⟨depth, hread⟩ := h
    cases depth <;> cases hread <;> exact ⟨none, rfl, .none⟩

theorem exec_findCompound_of_find {name : Text} {found : Option Value} {tag? : Option Tag}
    (hexec : exec (find address name) memory = (.ok found, memory))
    (hfound : Option.Rel (Shows openAt memory) found tag?) :
    ∃ found, exec (findCompound address name) memory = (.ok found, memory) ∧
      Option.Rel (Compound openAt memory) found (tag?.bind Tag.entries?) := by
  unfold findCompound
  rw [exec_bind_of_ok hexec]
  cases hfound with
  | none => exact ⟨none, rfl, .none⟩
  | some hvalue => exact exec_compound? hvalue

theorem exec_findList_of_find {name : Text} {found : Option Value} {tag? : Option Tag}
    (hexec : exec (find address name) memory = (.ok found, memory))
    (hfound : Option.Rel (Shows openAt memory) found tag?) :
    ∃ found, exec (findList address name) memory = (.ok found, memory) ∧
      Option.Rel (List.Forall₂ (Shows openAt memory)) found (tag?.bind Tag.items?) := by
  unfold findList
  rw [exec_bind_of_ok hexec]
  cases hfound with
  | none => exact ⟨none, rfl, .none⟩
  | some hvalue => exact exec_list? hvalue

theorem exec_findCompound (h : HoldsAt openAt memory address entries) (name : Text) :
    ∃ found, exec (findCompound address name) memory = (.ok found, memory) ∧
      Option.Rel (Compound openAt memory) found ((Entries.get? name entries).bind Tag.entries?) := by
  obtain ⟨found, hexec, hfound⟩ := exec_find h name
  exact exec_findCompound_of_find hexec hfound

theorem exec_findList (h : HoldsAt openAt memory address entries) (name : Text) :
    ∃ found, exec (findList address name) memory = (.ok found, memory) ∧
      Option.Rel (List.Forall₂ (Shows openAt memory)) found
        ((Entries.get? name entries).bind Tag.items?) := by
  obtain ⟨found, hexec, hfound⟩ := exec_find h name
  exact exec_findList_of_find hexec hfound

theorem exec_mapM_view {values : List Value} {tags : List Tag}
    (h : List.Forall₂ (Shows openAt memory) values tags) :
    exec (values.mapM view) memory = (.ok tags, memory) := by
  induction h with
  | nil => rfl
  | cons hvalue _ ih =>
    rw [List.mapM_cons, exec_bind_of_ok (exec_view hvalue), exec_bind_of_ok ih]
    rfl

end Reading

/-- The program ends as the outcome does, and keeps all objects but the changed ones. -/
structure Runs (changed : List Address) (memory : Memory) (program : Heap α) (outcome : Outcome β)
    (R : Memory → α → β → Prop) : Prop where
  keeps : memory.Keeps changed (exec program memory).2
  alike : Alike (R (exec program memory).2) (exec program memory).1 outcome

namespace Runs

variable {changed changed' openAt : List Address} {memory memory' : Memory} {program : Heap α}
  {outcome : Outcome β} {next : α → Heap γ} {continued : β → Outcome δ} {rest : Outcome δ}
  {R : Memory → α → β → Prop} {S : Memory → γ → δ → Prop} {address : Address} {entries : Entries}
  {value : Value} {tag : Tag}

theorem pure {a : α} {b : β} (h : R memory a b) : Runs changed memory (Pure.pure a) (.ok b) R :=
  ⟨Keeps.refl _ _, .ok h⟩

theorem of_fresh (h : Runs changed memory program outcome R)
    (hfresh : ∀ a ∈ changed, a ∈ changed' ∨ memory.length ≤ a) : Runs changed' memory program outcome R :=
  ⟨h.keeps.of_fresh hfresh, h.alike⟩

theorem map {f : β → δ} {R' : Memory → α → δ → Prop} (h : Runs changed memory program outcome R)
    (himp : ∀ memory' a b, outcome = .ok b → R memory' a b → R' memory' a (f b)) :
    Runs changed memory program (f <$> outcome) R' := by
  obtain ⟨hkeeps, halike⟩ := h
  refine ⟨hkeeps, ?_⟩
  generalize (exec program memory).1 = result at halike
  cases halike with
  | error fault => exact .error fault
  | ok hR => exact .ok (himp _ _ _ rfl hR)

/-- One program after another, which may also change what the first one made. -/
theorem bind_fresh (h : Runs changed memory program outcome R) (hsub : changed ⊆ changed')
    (hnext : ∀ memory' a b, memory.Keeps changed memory' → outcome = .ok b → R memory' a b →
      ∃ touched, (∀ a ∈ touched, a ∈ changed' ∨ memory.length ≤ a) ∧
        Runs touched memory' (next a) (continued b) S) :
    Runs changed' memory (program >>= next) (outcome >>= continued) S := by
  obtain ⟨hkeeps, halike⟩ := h
  cases hexec : exec program memory with
  | mk result memory' =>
    rw [hexec] at hkeeps halike
    cases halike with
    | error fault =>
      have hrun := exec_bind_of_error hexec next
      exact ⟨hrun ▸ hkeeps.mono hsub, hrun ▸ .error fault⟩
    | ok hR =>
      have hrun := exec_bind_of_ok hexec next
      obtain ⟨touched, hfresh, hlast⟩ := hnext _ _ _ hkeeps rfl hR
      exact ⟨hrun ▸ (hkeeps.mono hsub).trans_fresh hlast.keeps hfresh, hrun ▸ hlast.alike⟩

/-- One program after another. -/
theorem bind (h : Runs changed memory program outcome R) (hsub : changed ⊆ changed')
    (hnext : ∀ memory' a b, memory.Keeps changed memory' → outcome = .ok b → R memory' a b →
      Runs changed' memory' (next a) (continued b) S) :
    Runs changed' memory (program >>= next) (outcome >>= continued) S :=
  h.bind_fresh hsub fun memory' a b hkeeps hok hR =>
    ⟨changed', fun _ ha => .inl ha, hnext memory' a b hkeeps hok hR⟩

/-- A program that gives a known result, in front of one that has the same outcome as both. -/
theorem before {b : β} (h : Runs changed memory program (.ok b) R) (hsub : changed ⊆ changed')
    (hnext : ∀ memory' a, memory.Keeps changed memory' → R memory' a b →
      Runs changed' memory' (next a) rest S) : Runs changed' memory (program >>= next) rest S := by
  have hall : Runs changed' memory (program >>= next) (.ok b >>= fun _ => rest) S := by
    refine h.bind hsub fun memory' a b' hkeeps hok hR => hnext memory' a hkeeps ?_
    rwa [Except.ok.inj hok]
  exact hall

/-- A step that has no counterpart in the outcome. -/
theorem step {a : α} (h : exec program memory = (.ok a, memory')) (hkeeps : memory.Keeps changed memory')
    (hnext : Runs changed memory' (next a) rest S) : Runs changed memory (program >>= next) rest S := by
  have hrun := exec_bind_of_ok h next
  exact ⟨hrun ▸ hkeeps.trans hnext.keeps, hrun ▸ hnext.alike⟩

theorem lift {next : β → Heap γ}
    (hnext : ∀ b, outcome = .ok b → Runs changed memory (next b) (continued b) S) :
    Runs changed memory ((liftM outcome : Heap β) >>= next) (outcome >>= continued) S := by
  have hlift := exec_lift outcome memory
  cases outcome with
  | error fault =>
    have hrun := exec_bind_of_error hlift next
    exact ⟨hrun ▸ Keeps.refl _ _, hrun ▸ .error fault⟩
  | ok b => exact step hlift (Keeps.refl _ _) (hnext b rfl)

/-- A program ends with its last step. -/
theorem last (h : Runs changed memory (program >>= Pure.pure) outcome R) :
    Runs changed memory program outcome R := by
  rwa [bind_pure] at h

theorem reads {a : α} (h : exec program memory = (.ok a, memory))
    (hnext : Runs changed memory (next a) rest S) : Runs changed memory (program >>= next) rest S :=
  step h (Keeps.refl _ _) hnext

/-! ### Writing -/

theorem alloc {object : Object} {next : Address → Heap γ}
    (hnext : Runs changed (memory ++ [object]) (next memory.length) rest S) :
    Runs changed memory (Heap.alloc object >>= next) rest S :=
  step rfl ((keeps_append memory [object]).mono (List.nil_subset _)) hnext

theorem put (h : HoldsAt openAt memory address entries) (haddress : address ∈ openAt)
    (hchanged : address ∈ changed) (hvalue : Shows openAt memory value tag) {name : Text}
    {next : Unit → Heap γ}
    (hnext : ∀ memory', memory.Keeps [address] memory' →
      HoldsAt openAt memory' address (entries.set name tag) → Runs changed memory' (next ()) rest S) :
    Runs changed memory (Heap.put address name value >>= next) rest S := by
  have hkeeps := keeps_modify memory address (Object.mapFields (Fields.set name value))
  refine step rfl (hkeeps.mono (List.cons_subset.2 ⟨hchanged, List.nil_subset _⟩)) (hnext _ hkeeps ?_)
  exact h.put haddress hvalue name

/-! ### Lists -/

/-- One program for each item, each of which changes nothing that was there before. -/
theorem mapM {P : Memory → α → β → Prop} {step : α → Heap γ} {outcomes : β → Outcome δ}
    (hP : ∀ memory memory' a b, memory.Keeps [] memory' → P memory a b → P memory' a b)
    (hS : ∀ memory memory' c d, memory.Keeps [] memory' → S memory c d → S memory' c d)
    (hstep : ∀ memory' a b, memory.Keeps [] memory' → P memory' a b →
      Runs [] memory' (step a) (outcomes b) S) {items : List α} {others : List β}
    (h : List.Forall₂ (P memory) items others) :
    Runs [] memory (items.mapM step) (others.mapM outcomes) fun memory' => List.Forall₂ (S memory') := by
  induction items generalizing memory others with
  | nil =>
    cases h
    exact Runs.pure .nil
  | cons a items ih =>
    obtain ⟨b, others, hfirst, hrest, rfl⟩ := List.forall₂_cons_left_iff.1 h
    rw [List.mapM_cons, List.mapM_cons]
    refine bind (hstep memory _ _ (Keeps.refl _ _) hfirst) (List.Subset.refl _)
      fun memory₁ c d hkeeps _ hc => ?_
    have hothers := ih (fun memory' a b hkeeps' => hstep memory' a b (hkeeps.trans hkeeps'))
      (hrest.imp fun a b => hP memory memory₁ a b hkeeps)
    refine bind hothers (List.Subset.refl _) fun memory₂ cs ds hkeeps' _ hcs => ?_
    exact Runs.pure (.cons (hS memory₁ memory₂ c d hkeeps' hc) hcs)

end Runs

/-! ## New objects -/

theorem notMem_of_below {openAt : List Address} {memory memory' : Memory} (h : Below openAt memory)
    (hkeeps : memory.Keeps [] memory') : memory'.length ∉ openAt :=
  fun hmem => Nat.lt_irrefl _ ((h _ hmem).trans_le hkeeps.length_le)

/-- A new list shows what its items show. -/
theorem shows_new_list {openAt : List Address} {memory : Memory} {items : List Value} {tags : List Tag}
    (hbelow : Below openAt memory) (h : List.Forall₂ (Shows openAt memory) items tags) :
    Shows openAt (memory ++ [.list items]) (.ref memory.length) (.list tags) := by
  refine shows_list_iff.2 ⟨notMem_of_below hbelow (Keeps.refl _ _), items, ?_, ?_⟩
  · rw [List.getElem?_concat_length]
  · exact h.imp fun _ _ hshows => hshows.keeps (keeps_append _ _) (List.nil_subset _)

/-- A new compound holds what its fields show, and may be open. -/
theorem holds_new {openAt : List Address} {memory : Memory} {fields : Fields} {entries : Entries}
    (h : fields.Match (fun _ => Shows openAt memory) entries) :
    HoldsAt openAt (memory ++ [.compound fields]) memory.length entries := by
  refine ⟨fields, List.getElem?_concat_length, ?_⟩
  exact h.imp fun _ _ _ _ hshows => hshows.keeps (keeps_append _ _) (List.nil_subset _)

theorem shows_new_compound {openAt : List Address} {memory : Memory} {fields : Fields}
    {entries : Entries} (hbelow : Below openAt memory)
    (h : fields.Match (fun _ => Shows openAt memory) entries) :
    Shows openAt (memory ++ [.compound fields]) (.ref memory.length) (.compound entries) :=
  shows_compound_iff.2 ⟨notMem_of_below hbelow (Keeps.refl _ _), holds_new h⟩

/-- The program adds objects and gives a result that stands in a relation to them. -/
def Makes (memory : Memory) (program : Heap α) (R : Memory → α → Prop) : Prop :=
  ∃ a memory', exec program memory = (.ok a, memory') ∧ memory.Keeps [] memory' ∧ R memory' a

namespace Makes

variable {memory : Memory} {program : Heap α} {next : α → Heap β} {R : Memory → α → Prop}
  {S : Memory → β → Prop}

theorem pure {a : α} (h : R memory a) : Makes memory (Pure.pure a) R :=
  ⟨a, memory, rfl, Keeps.refl _ _, h⟩

theorem bind (h : Makes memory program R)
    (hnext : ∀ memory' a, memory.Keeps [] memory' → R memory' a → Makes memory' (next a) S) :
    Makes memory (program >>= next) S := by
  obtain ⟨a, memory', hexec, hkeeps, hR⟩ := h
  obtain ⟨b, memory'', hexec', hkeeps', hS⟩ := hnext memory' a hkeeps hR
  exact ⟨b, memory'', (exec_bind_of_ok hexec next).trans hexec', hkeeps.trans hkeeps', hS⟩

theorem reads {a : α} (h : exec program memory = (.ok a, memory))
    (hnext : Makes memory (next a) S) : Makes memory (program >>= next) S :=
  bind ⟨a, memory, h, Keeps.refl _ _, Eq.refl memory, Eq.refl a⟩ (R := fun m b => memory = m ∧ a = b)
    fun _ _ _ heq => heq.1 ▸ heq.2 ▸ hnext

theorem alloc {object : Object} {next : Address → Heap β}
    (hnext : Makes (memory ++ [object]) (next memory.length) S) :
    Makes memory (Heap.alloc object >>= next) S := by
  obtain ⟨b, memory', hexec, hkeeps, hS⟩ := hnext
  exact ⟨b, memory', (exec_bind_of_ok rfl next).trans hexec,
    (keeps_append memory [object]).trans hkeeps, hS⟩

/-- One program for each item. -/
theorem mapM {step : α → Heap β} {S : Memory → β → α → Prop}
    (hS : ∀ memory memory' b a, memory.Keeps [] memory' → S memory b a → S memory' b a)
    (hstep : ∀ memory' a, memory.Keeps [] memory' → Makes memory' (step a) fun m b => S m b a)
    (items : List α) : Makes memory (items.mapM step) fun memory' => (List.Forall₂ (S memory') · items) := by
  induction items generalizing memory with
  | nil => exact Makes.pure .nil
  | cons a items ih =>
    rw [List.mapM_cons]
    refine bind (hstep memory a (Keeps.refl _ _)) fun memory₁ b hkeeps hb => ?_
    refine bind (ih fun memory' a hkeeps' => hstep memory' a (hkeeps.trans hkeeps'))
      fun memory₂ bs hkeeps' hbs => ?_
    exact Makes.pure (.cons (hS memory₁ memory₂ b a hkeeps' hb) hbs)

theorem runs {changed : List Address} {rest : Outcome γ} {S : Memory → β → γ → Prop}
    (h : Makes memory program R)
    (hnext : ∀ memory' a, memory.Keeps [] memory' → R memory' a →
      Runs changed memory' (next a) rest S) : Runs changed memory (program >>= next) rest S := by
  obtain ⟨a, memory', hexec, hkeeps, hR⟩ := h
  exact Runs.step hexec (hkeeps.mono (List.nil_subset _)) (hnext memory' a hkeeps hR)

end Makes

/-- Storing the tag makes a value that shows it, of new objects. -/
def Stores (tag : Tag) : Prop :=
  ∀ (openAt : List Address) (memory : Memory), Below openAt memory →
    Makes memory (store tag) fun memory' value => Shows openAt memory' value tag

theorem makes_storeItems {tags : List Tag} (h : ∀ tag ∈ tags, Stores tag) {openAt : List Address}
    {memory : Memory} (hbelow : Below openAt memory) :
    Makes memory (storeItems tags) fun memory' values =>
      List.Forall₂ (Shows openAt memory') values tags := by
  induction tags generalizing memory with
  | nil => exact Makes.pure .nil
  | cons tag rest ih =>
    obtain ⟨htag, hrest⟩ := List.forall_mem_cons.1 h
    rw [storeItems]
    refine (htag openAt memory hbelow).bind fun memory₁ value hkeeps hvalue => ?_
    refine (ih hrest (hbelow.keeps hkeeps)).bind fun memory₂ values hkeeps' hvalues => ?_
    exact Makes.pure (.cons (hvalue.keeps hkeeps' (List.nil_subset _)) hvalues)

theorem makes_storeEntries_of {entries : Entries} (h : ∀ entry ∈ entries, Stores entry.2)
    {openAt : List Address} {memory : Memory} (hbelow : Below openAt memory) :
    Makes memory (storeEntries entries) fun memory' (fields : Fields) =>
      fields.Match (fun _ => Shows openAt memory') entries := by
  induction entries generalizing memory with
  | nil => exact Makes.pure .nil
  | cons entry rest ih =>
    obtain ⟨name, tag⟩ := entry
    obtain ⟨htag, hrest⟩ := List.forall_mem_cons.1 h
    rw [storeEntries]
    refine (htag openAt memory hbelow).bind fun memory₁ value hkeeps hvalue => ?_
    refine (ih hrest (hbelow.keeps hkeeps)).bind fun memory₂ values hkeeps' hvalues => ?_
    exact Makes.pure (.cons ⟨rfl, hvalue.keeps hkeeps' (List.nil_subset _)⟩ hvalues)

theorem stores (tag : Tag) : Stores tag := by
  induction tag using Tag.induct with
  | null => exact fun _ _ _ => Makes.pure ⟨0, rfl⟩
  | bool b => exact fun _ _ _ => Makes.pure ⟨0, rfl⟩
  | int n => exact fun _ _ _ => Makes.pure ⟨0, rfl⟩
  | float x => exact fun _ _ _ => Makes.pure ⟨0, rfl⟩
  | text s => exact fun _ _ _ => Makes.pure ⟨0, rfl⟩
  | list items ih =>
    intro openAt memory hbelow
    rw [store]
    refine (makes_storeItems ih hbelow).bind fun memory' values hkeeps hvalues => ?_
    exact Makes.alloc (Makes.pure (shows_new_list (hbelow.keeps hkeeps) hvalues))
  | compound entries ih =>
    intro openAt memory hbelow
    rw [store]
    refine (makes_storeEntries_of ih hbelow).bind fun memory' fields hkeeps hfields => ?_
    exact Makes.alloc (Makes.pure (shows_new_compound (hbelow.keeps hkeeps) hfields))

theorem makes_store (tag : Tag) {openAt : List Address} {memory : Memory}
    (hbelow : Below openAt memory) :
    Makes memory (store tag) fun memory' value => Shows openAt memory' value tag :=
  stores tag openAt memory hbelow

theorem makes_storeEntries (entries : Entries) {openAt : List Address} {memory : Memory}
    (hbelow : Below openAt memory) :
    Makes memory (storeEntries entries) fun memory' (fields : Fields) =>
      fields.Match (fun _ => Shows openAt memory') entries :=
  makes_storeEntries_of (fun entry _ => stores entry.2) hbelow

end Heap

end CommandUpgrade
