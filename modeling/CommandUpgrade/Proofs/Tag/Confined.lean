import CommandUpgrade.Proofs.Tag.Entries
import CommandUpgrade.Proofs.Tag.Typed

/-!
# Trees that keep their entries

A letter behind the last number of a compound takes the closing brace, and the compound goes on to the
next one. That is harmless where the compound is itself the last entry around it, or where nothing
that could be an entry follows. `Typed.confined` is this condition on a tree.

1. A confined tree is read as it is, without the letters (`Restored`).
2. A name that does not come again in the stream keeps its value (`get?_finish`), so with names that
   are all different an entry that moved can be seen in the result, and only confined trees are read
   as they are (`Revealed`).
-/

namespace CommandUpgrade.Tag

open Text Number

/-- The name of an entry that a token starts. -/
def Token.name? : Token → Option Text
  | .set name _ => some name
  | .enter name => some name
  | .leave => none

/-- The names in a stream. -/
def Token.names (tokens : List Token) : List Text := tokens.filterMap Token.name?

/-- Whether a stream gives no entry to the compound that takes it. -/
def isQuiet : List Token → Bool
  | [] => true
  | token :: _ => token.name?.isNone

namespace Typed

mutual

/-- Whether the brace behind a tree is taken by a letter. -/
def takesBrace : Typed → Bool
  | .compound entries => lastTakesBrace entries
  | tree => tree.leavesLetter

/-- Whether the brace behind the entries of a compound is taken by a letter. -/
def lastTakesBrace : List (Text × Typed) → Bool
  | [] => false
  | (_, tree) :: rest => if rest.isEmpty then takesBrace tree else lastTakesBrace rest

end

mutual

/-- Whether no compound of a tree goes on to entries of another, by whether the stream behind the tree
is quiet. -/
def confined (quiet : Bool) : Typed → Bool
  | .int n _ => n < 10 ^ digitLimit
  | .list items => confinedItems quiet items
  | .compound entries => (quiet || !lastTakesBrace entries) && confinedEntries entries
  | _ => true

/-- The condition on the items of a list. -/
def confinedItems (quiet : Bool) : List Typed → Bool
  | [] => true
  | tree :: rest =>
    confined (quiet || rest.isEmpty || !rest.all isSingle) tree && confinedItems quiet rest

/-- The condition on the entries of a compound. -/
def confinedEntries : List (Text × Typed) → Bool
  | [] => true
  | (_, tree) :: rest => confined rest.isEmpty tree && confinedEntries rest

end

mutual

/-- The names in a tree, at every depth. -/
def names : Typed → List Text
  | .list items => namesItems items
  | .compound entries => namesEntries entries
  | _ => []

/-- The names in the items of a list. -/
def namesItems : List Typed → List Text
  | [] => []
  | tree :: rest => names tree ++ namesItems rest

/-- The names of the entries of a compound and those in their values. -/
def namesEntries : List (Text × Typed) → List Text
  | [] => []
  | (name, tree) :: rest => name :: (names tree ++ namesEntries rest)

end

theorem isQuiet_stream (after : List Token) (entries : List (Text × Typed)) :
    isQuiet (stream after entries) = entries.isEmpty := by
  cases entries with
  | nil => rw [stream]; rfl
  | cons entry rest =>
    obtain ⟨name, tree⟩ := entry
    by_cases h : ∃ inner, tree = .compound inner
    · obtain ⟨inner, rfl⟩ := h
      rw [stream]
      rfl
    · rw [stream_cons fun inner heq => h ⟨inner, heq⟩]
      rfl

theorem isQuiet_afterItem (after : List Token) (items : List Typed) :
    isQuiet (afterItem after items) = (isQuiet after || items.isEmpty || !items.all isSingle) := by
  unfold afterItem
  have hnil : isQuiet [] = true := rfl
  cases items.isEmpty <;> cases items.all isSingle <;> simp [hnil]

/-! ## Confined trees are restored -/

/-- Where a tree is confined it is read as it is, and its entries leave the brace or take it. -/
structure Restored (tree : Typed) : Prop where
  value : ∀ {after : List Token}, tree.confined (isQuiet after) = true →
    tree.settle after = tree.erase
  entries : ∀ entries, tree = .compound entries → confinedEntries entries = true →
    ∀ (opens : List (Entries × Text)) (after : List Token),
      finish [] opens (stream after entries) =
        finish (eraseEntries entries) opens (if lastTakesBrace entries then after else .leave :: after)

theorem takesBrace_of_ne_compound {tree : Typed} (h : ∀ entries, tree ≠ .compound entries) :
    tree.takesBrace = tree.leavesLetter := by
  cases tree with
  | compound entries => exact absurd rfl (h entries)
  | _ => rw [takesBrace]; simp

/-- One confined entry is set, and the stream goes on behind it. -/
theorem finish_stream_cons {tree : Typed} (htree : tree.Restored) {rest : List (Text × Typed)}
    (h : tree.confined rest.isEmpty = true) (acc : Entries) (opens : List (Entries × Text))
    (after : List Token) (name : Text) :
    finish acc opens (stream after ((name, tree) :: rest)) =
      finish (acc.set name tree.erase) opens
        (if rest.isEmpty && tree.takesBrace then after else stream after rest) := by
  by_cases hcompound : ∃ inner, tree = .compound inner
  · obtain ⟨inner, rfl⟩ := hcompound
    rw [confined, Bool.and_eq_true] at h
    rw [stream, finish, htree.entries inner rfl h.2, takesBrace, erase]
    cases hbrace : lastTakesBrace inner with
    | false =>
      rw [if_neg Bool.false_ne_true, finish, Bool.and_false, if_neg Bool.false_ne_true]
    | true =>
      -- only the last entry may take a brace: it is the one of this compound
      rw [hbrace, Bool.not_true, Bool.or_false] at h
      rw [if_pos rfl, h.1, Bool.and_true, if_pos rfl, List.isEmpty_iff.1 h.1, stream, finish]
  · have hother : ∀ inner, tree ≠ .compound inner := fun inner heq => hcompound ⟨inner, heq⟩
    have hvalue : tree.settle (stream after rest) = tree.erase :=
      htree.value (by rw [isQuiet_stream]; exact h)
    rw [stream_cons hother, finish, hvalue, takesBrace_of_ne_compound hother]

/-- Reading the entries of a confined compound behind those it already has. -/
theorem finish_stream {entries : List (Text × Typed)}
    (hentries : ∀ entry ∈ entries, entry.2.Restored) (hconfined : confinedEntries entries = true)
    (acc : Entries) (hdistinct : (acc.names ++ entries.map (·.1)).Nodup)
    (opens : List (Entries × Text)) (after : List Token) :
    finish acc opens (stream after entries) =
      finish (acc ++ eraseEntries entries) opens
        (if lastTakesBrace entries then after else .leave :: after) := by
  induction entries generalizing acc with
  | nil => rw [stream, eraseEntries, List.append_nil, lastTakesBrace, if_neg Bool.false_ne_true]
  | cons entry rest ih =>
    obtain ⟨name, tree⟩ := entry
    rw [confinedEntries, Bool.and_eq_true] at hconfined
    have hnew : name ∉ acc.names := by
      intro hmem
      exact (List.nodup_append.1 hdistinct).2.2 name hmem name List.mem_cons_self rfl
    have hrest := ih (fun e he => hentries e (List.mem_cons_of_mem _ he)) hconfined.2
      (acc ++ [(name, tree.erase)]) (by
        rw [Entries.names, List.map_append, List.append_assoc]
        exact hdistinct)
    rw [List.append_assoc, List.singleton_append] at hrest
    rw [finish_stream_cons (hentries (name, tree) List.mem_cons_self) hconfined.1,
      Entries.set_of_notMem hnew, lastTakesBrace, eraseEntries]
    cases rest with
    | nil => rw [stream, eraseEntries]; rfl
    | cons next rest => exact hrest

theorem settleItems_eq {items : List Typed} (hitems : ∀ tree ∈ items, tree.Restored)
    {after : List Token} (h : confinedItems (isQuiet after) items = true) :
    settleItems after items = eraseItems items := by
  induction items with
  | nil => rfl
  | cons tree rest ih =>
    rw [confinedItems, Bool.and_eq_true, ← isQuiet_afterItem] at h
    rw [settleItems, eraseItems, (hitems tree List.mem_cons_self).value h.1,
      ih (fun t ht => hitems t (List.mem_cons_of_mem tree ht)) h.2]

/-- What follows a compound does not matter when it is quiet. -/
theorem finish_of_isQuiet {tokens : List Token} (h : isQuiet tokens = true) (acc : Entries) :
    finish acc [] tokens = acc := by
  cases tokens with
  | nil => rfl
  | cons token rest =>
    cases token with
    | set name tag => cases h
    | enter name => cases h
    | leave => rfl

theorem Clean.restored {tree : Typed} (h : tree.Clean) : tree.Restored := by
  induction h with
  | int n kind =>
    refine ⟨fun {after} h => ?_, fun entries heq => by cases heq⟩
    rw [confined, decide_eq_true_eq] at h
    rw [settle, number, if_pos h, erase]
  | bool b => exact ⟨fun {after} h => by rw [settle, erase], fun entries heq => by cases heq⟩
  | text hs => exact ⟨fun {after} h => by rw [settle, erase], fun entries heq => by cases heq⟩
  | list hitems ih =>
    refine ⟨fun {after} h => ?_, fun entries heq => by cases heq⟩
    rw [confined] at h
    rw [settle, erase, settleItems_eq ih h]
  | @compound entries hdistinct hnames hentries ih =>
    have hfinish := fun hconfined => finish_stream ih hconfined [] hdistinct
    refine ⟨fun {after} h => ?_, ?_⟩
    · rw [confined, Bool.and_eq_true] at h
      rw [settle, erase, hfinish h.2, List.nil_append]
      cases hbrace : lastTakesBrace entries with
      | false => rfl
      | true =>
        rw [hbrace, Bool.not_true, Bool.or_false] at h
        rw [if_pos rfl, finish_of_isQuiet h.1]
    · rintro _ ⟨rfl⟩ hconfined opens after
      exact hfinish hconfined opens after

end Typed

/-! ## Moved entries can be seen -/

/-- A name that is not in the stream keeps its value in the outermost compound; there the compound that
is open in it is the one that the open compounds within end as. -/
theorem get?_finish {name : Text} {tokens : List Token} (h : name ∉ Token.names tokens)
    (acc : Entries) :
    Entries.get? name (finish acc [] tokens) = acc.get? name ∧
    ∀ (opens : List (Entries × Text)) (outer : Entries) (n : Text),
      Entries.get? name (finish acc (opens ++ [(outer, n)]) tokens) =
        Entries.get? name (outer.set n (.compound (finish acc opens tokens))) := by
  induction tokens generalizing acc with
  | nil =>
    refine ⟨rfl, fun opens outer n => ?_⟩
    rw [finish, finish, List.foldl_append]
    rfl
  | cons token rest ih =>
    cases token with
    | set m tag =>
      obtain ⟨hroot, hopens⟩ := ih (List.not_mem_of_not_mem_cons h) (acc.set m tag)
      refine ⟨?_, hopens⟩
      rw [finish, hroot, Entries.get?_set_of_ne (List.ne_of_not_mem_cons h)]
    | enter m =>
      obtain ⟨-, hopens⟩ := ih (List.not_mem_of_not_mem_cons h) []
      refine ⟨?_, fun opens outer n => hopens ((acc, m) :: opens) outer n⟩
      rw [finish, ← List.nil_append [(acc, m)], hopens,
        Entries.get?_set_of_ne (List.ne_of_not_mem_cons h)]
    | leave =>
      refine ⟨rfl, fun opens outer n => ?_⟩
      cases opens with
      | nil => exact (ih h _).1
      | cons inner opens => exact (ih h _).2 opens outer n

/-- The first entry of a stream comes into the compound that takes it. -/
theorem get?_finish_of_not_isQuiet {tokens : List Token} (h : isQuiet tokens = false)
    (hdistinct : (Token.names tokens).Nodup) :
    ∃ name ∈ Token.names tokens, ∀ acc,
      (Entries.get? name (finish acc [] tokens)).isSome = true := by
  cases tokens with
  | nil => cases h
  | cons token rest =>
    cases token with
    | leave => cases h
    | set name tag =>
      have hrest := (List.nodup_cons.1 hdistinct).1
      refine ⟨name, List.mem_cons_self, fun acc => ?_⟩
      rw [finish, (get?_finish hrest _).1, Entries.get?_set_self]
      rfl
    | enter name =>
      have hrest := (List.nodup_cons.1 hdistinct).1
      refine ⟨name, List.mem_cons_self, fun acc => ?_⟩
      rw [finish, ← List.nil_append [(acc, name)], (get?_finish hrest _).2, Entries.get?_set_self]
      rfl

namespace Typed

theorem names_afterItem (after : List Token) (items : List Typed) :
    (Token.names (afterItem after items)).Sublist (Token.names after) := by
  unfold afterItem
  split
  · exact List.Sublist.refl _
  · exact List.nil_sublist _

theorem names_stream_cons {tree : Typed} (hother : ∀ entries, tree ≠ .compound entries)
    (after : List Token) (name : Text) {rest : List (Text × Typed)}
    (h : (Token.names (stream after rest)).Sublist (namesEntries rest ++ Token.names after)) :
    (Token.names (stream after ((name, tree) :: rest))).Sublist
      (namesEntries ((name, tree) :: rest) ++ Token.names after) := by
  rw [stream_cons hother, namesEntries, List.cons_append, List.append_assoc]
  refine List.Sublist.cons_cons name ?_
  split
  · exact (List.sublist_append_right _ _).trans (List.sublist_append_right _ _)
  · exact h.trans (List.sublist_append_right _ _)

/-- The names of a stream are names of the entries and of the stream behind them. -/
theorem names_stream (after : List Token) : ∀ entries : List (Text × Typed),
    (Token.names (stream after entries)).Sublist (namesEntries entries ++ Token.names after)
  | [] => by
    rw [stream, namesEntries]
    exact List.Sublist.refl _
  | (name, .compound inner) :: rest => by
    rw [stream, namesEntries, names, List.cons_append, List.append_assoc]
    refine List.Sublist.cons_cons name ?_
    exact (names_stream (stream after rest) inner).trans
      ((List.Sublist.refl _).append (names_stream after rest))
  | (name, .int n kind) :: rest => names_stream_cons (by simp) after name (names_stream after rest)
  | (name, .bool b) :: rest => names_stream_cons (by simp) after name (names_stream after rest)
  | (name, .text s) :: rest => names_stream_cons (by simp) after name (names_stream after rest)
  | (name, .list items) :: rest => names_stream_cons (by simp) after name (names_stream after rest)

/-- A stream that adds nothing to a compound is quiet. -/
theorem isQuiet_of_finish {tokens : List Token} {acc : Entries}
    (hdistinct : (acc.names ++ Token.names tokens).Nodup) (h : finish acc [] tokens = acc) :
    isQuiet tokens = true := by
  by_contra hquiet
  obtain ⟨-, htokens, hdisjoint⟩ := List.nodup_append.1 hdistinct
  obtain ⟨name, hname, hsome⟩ :=
    get?_finish_of_not_isQuiet (Bool.not_eq_true _ ▸ hquiet) htokens
  have hget := hsome acc
  have hnew : name ∉ acc.names := fun hmem => hdisjoint name hmem name hname rfl
  rw [h, Entries.get?_eq_none hnew] at hget
  cases hget

/-- Where all names differ, a tree that is read as it is was confined. -/
def Revealed (tree : Typed) : Prop :=
  ∀ {after : List Token}, (tree.names ++ Token.names after).Nodup →
    tree.settle after = tree.erase → tree.confined (isQuiet after) = true

theorem confinedItems_of_settleItems {items : List Typed}
    (hitems : ∀ tree ∈ items, tree.Revealed) {after : List Token}
    (hdistinct : (namesItems items ++ Token.names after).Nodup)
    (h : settleItems after items = eraseItems items) :
    confinedItems (isQuiet after) items = true := by
  induction items with
  | nil => rfl
  | cons tree rest ih =>
    rw [settleItems, eraseItems] at h
    obtain ⟨hhead, htail⟩ := List.cons.inj h
    rw [namesItems, List.append_assoc] at hdistinct
    rw [confinedItems, Bool.and_eq_true, ← isQuiet_afterItem]
    refine ⟨hitems tree List.mem_cons_self (hdistinct.sublist ?_) hhead,
      ih (fun t ht => hitems t (List.mem_cons_of_mem tree ht))
        (hdistinct.sublist (List.sublist_append_right _ _)) htail⟩
    exact (List.Sublist.refl _).append
      ((names_afterItem after rest).trans (List.sublist_append_right _ _))

/-- Where all names differ, the value of an entry can be seen in the compound. -/
theorem settle_of_finish {name : Text} {tree : Typed} {rest : List (Text × Typed)}
    {after : List Token} {acc : Entries} (hnew : name ∉ acc.names)
    (hname : name ∉ tree.names ++ (namesEntries rest ++ Token.names after))
    (h : finish acc [] (stream after ((name, tree) :: rest)) =
      acc ++ eraseEntries ((name, tree) :: rest)) :
    tree.settle (stream after rest) = tree.erase := by
  have hget := congrArg (Entries.get? name) h
  rw [Entries.get?_append_of_notMem hnew, eraseEntries, Entries.get?_cons, if_pos rfl] at hget
  rw [List.mem_append, not_or] at hname
  have hbehind : name ∉ Token.names (stream after rest) :=
    fun hmem => hname.2 ((names_stream after rest).subset hmem)
  by_cases hcompound : ∃ inner, tree = .compound inner
  · obtain ⟨inner, rfl⟩ := hcompound
    have hinner : name ∉ Token.names (stream (stream after rest) inner) := by
      intro hmem
      rcases List.mem_append.1 ((names_stream _ inner).subset hmem) with hmem | hmem
      · exact hname.1 hmem
      · exact hbehind hmem
    rw [stream, finish, ← List.nil_append [(acc, name)], (get?_finish hinner _).2,
      Entries.get?_set_self] at hget
    rw [settle]
    exact Option.some.inj hget
  · rw [stream_cons fun inner heq => hcompound ⟨inner, heq⟩, finish, (get?_finish _ _).1,
      Entries.get?_set_self] at hget
    · exact Option.some.inj hget
    · split
      · exact fun hmem => hname.2 (List.mem_append_right _ hmem)
      · exact hbehind

theorem confinedEntries_of_finish {entries : List (Text × Typed)}
    (hrestored : ∀ entry ∈ entries, entry.2.Restored)
    (hrevealed : ∀ entry ∈ entries, entry.2.Revealed) {after : List Token} (acc : Entries)
    (hdistinct : (acc.names ++ (namesEntries entries ++ Token.names after)).Nodup)
    (h : finish acc [] (stream after entries) = acc ++ eraseEntries entries) :
    (isQuiet after || !lastTakesBrace entries) = true ∧ confinedEntries entries = true := by
  induction entries generalizing acc with
  | nil =>
    rw [lastTakesBrace, Bool.not_false, Bool.or_true]
    exact ⟨rfl, rfl⟩
  | cons entry rest ih =>
    obtain ⟨name, tree⟩ := entry
    rw [namesEntries, List.cons_append, List.append_assoc] at hdistinct
    obtain ⟨-, hdistinct', hdisjoint⟩ := List.nodup_append.1 hdistinct
    have hnew : name ∉ acc.names := fun hmem => hdisjoint name hmem name List.mem_cons_self rfl
    obtain ⟨hname, hnames⟩ := List.nodup_cons.1 hdistinct'
    have hothers : (Entries.names (acc ++ [(name, tree.erase)]) ++
        (namesEntries rest ++ Token.names after)).Nodup := by
      rw [Entries.names, List.map_append, List.append_assoc]
      exact hdistinct.sublist ((List.Sublist.refl _).append
        ((List.sublist_append_right _ _).cons_cons name))
    have hconfined : tree.confined rest.isEmpty = true := by
      rw [← isQuiet_stream after]
      exact hrevealed (name, tree) List.mem_cons_self
        (hnames.sublist ((List.Sublist.refl _).append (names_stream after rest)))
        (settle_of_finish hnew hname h)
    rw [eraseEntries, List.append_cons,
      finish_stream_cons (hrestored (name, tree) List.mem_cons_self) hconfined,
      Entries.set_of_notMem hnew] at h
    rw [confinedEntries, hconfined, Bool.true_and, lastTakesBrace]
    have hrest := ih (fun e he => hrestored e (List.mem_cons_of_mem _ he))
      (fun e he => hrevealed e (List.mem_cons_of_mem _ he)) _ hothers
    cases rest with
    | cons next rest => exact hrest h
    | nil =>
      cases hbrace : tree.takesBrace with
      | false => exact ⟨Bool.or_true _, rfl⟩
      | true =>
        rw [hbrace, eraseEntries, List.append_nil] at h
        rw [isQuiet_of_finish hothers h]
        exact ⟨rfl, rfl⟩

theorem Clean.revealed {tree : Typed} (h : tree.Clean) : tree.Revealed := by
  induction h with
  | int n kind =>
    intro after _ heq
    rw [settle, number, erase] at heq
    rw [confined, decide_eq_true_eq]
    by_contra hn
    rw [if_neg hn] at heq
    cases heq
  | bool b => exact fun _ _ => rfl
  | text hs => exact fun _ _ => rfl
  | list hitems ih =>
    intro after hdistinct heq
    rw [settle, erase] at heq
    exact confinedItems_of_settleItems ih hdistinct (Tag.list.inj heq)
  | compound _ _ hentries ih =>
    intro after hdistinct heq
    rw [settle, erase] at heq
    rw [confined, Bool.and_eq_true]
    exact confinedEntries_of_finish (fun e he => (hentries e he).restored) ih [] hdistinct
      (Tag.compound.inj heq)

/-- What is read from a written tree is what `settle` says. It is the tree without its letters when the
tree is confined and, where all names differ, only then. -/
theorem read_typed {tree : Typed} (h : tree.Clean) :
    Tag.read tree.print = tree.settle [] ∧
    (tree.confined true = true → Tag.read tree.print = tree.erase) ∧
    (tree.names.Nodup → Tag.read tree.print = tree.erase → tree.confined true = true) := by
  rw [read_print h]
  refine ⟨rfl, fun hconfined => h.restored.value hconfined, fun hdistinct heq => ?_⟩
  exact h.revealed (by rw [Token.names, List.filterMap_nil, List.append_nil]; exact hdistinct) heq

theorem lt_digitLimit {n : Nat} (h : n < 10) : n < 10 ^ digitLimit :=
  h.trans_le (Nat.le_self_pow (by decide) 10)

/-- A byte at the end of a compound: the entry behind the compound moves into it. -/
theorem read_typed_moved : ∃ tree : Typed,
    tree.Clean ∧ tree.names.Nodup ∧ tree.print = "\x7bx:\x7ba:1b\x7d,y:2\x7d" ∧
    tree.erase = .compound [("x", .compound [("a", .int 1)]), ("y", .int 2)] ∧
    Tag.read tree.print = .compound [("x", .compound [("a", .int 1), ("y", .int 2)])] ∧
    Tag.read tree.print ≠ tree.erase := by
  refine ⟨.compound [("x", .compound [("a", .int 1 (some .byte))]), ("y", .int 2 none)], ?_⟩
  have hclean : (compound [("x", compound [("a", int 1 (some .byte))]), ("y", int 2 none)]).Clean := by
    refine .compound (by decide) (by decide) fun entry hentry => ?_
    rcases List.mem_pair.1 hentry with rfl | rfl
    · refine .compound (by decide) (by decide) fun entry hentry => ?_
      obtain rfl := List.mem_singleton.1 hentry
      exact .int 1 (some .byte)
    · exact .int 2 none
  obtain ⟨hsettle, -, honly⟩ := read_typed hclean
  refine ⟨hclean, by decide +kernel, by decide +kernel, by simp [erase, eraseEntries], ?_, ?_⟩
  · rw [hsettle]
    simp [settle, stream, finish, leavesLetter, number, lt_digitLimit, Entries.set]
  · intro heq
    exact absurd (honly (by decide +kernel) heq) (by decide +kernel)

end Typed

end CommandUpgrade.Tag
