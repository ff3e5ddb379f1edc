import CommandUpgrade.Proofs.Tag.OpenCompounds
import CommandUpgrade.Proofs.Tag.Pieces

/-!
# Typed trees

A tree whose numbers may carry the letter of their type, and how it is written. The reader does not
take the letter with the number: inside a compound the letter is read as a name without a value, and
the character behind it is passed over. `Typed.settle` says what the reader makes of every tree:

1. The entries of a compound are a stream of tokens. A letter behind the last number of a compound
   takes the token of the closing brace out of the stream (`Typed.stream`).
2. A compound takes the tokens up to the closing brace that is left for it, also those of the
   entries that follow it (`finish`).
3. Each item of a list is read on its own, with the stream that follows it: the names of single
   items behind it are passed over, and a list or compound among them ends the reading
   (`Typed.afterItem`).

`read_print` is the proof that the reader does this.
-/

namespace CommandUpgrade.Tag

open Text Number

/-- The type of a number. -/
inductive Kind
  | byte
  | short
  | long
  | float
  | double
  deriving DecidableEq, Repr

/-- The letter of a type. -/
def Kind.letter : Kind → Char
  | byte => 'b'
  | short => 's'
  | long => 'L'
  | float => 'f'
  | double => 'd'

/-- A tree whose numbers may have a type. -/
inductive Typed
  | int (value : Nat) (kind : Option Kind)
  | bool (value : Bool)
  | text (value : Text)
  | list (items : List Typed)
  | compound (entries : List (Text × Typed))

/-- What the reader of a compound meets. -/
inductive Token
  /-- An entry that is no compound. -/
  | set (name : Text) (tag : Tag)
  /-- The start of a compound. -/
  | enter (name : Text)
  /-- A closing brace. -/
  | leave

namespace Typed

/-! ## Writing -/

/-- The letter behind a number, if it has a type. -/
def letters (kind : Option Kind) : Text := (kind.map Kind.letter).toList

mutual

/-- The text of a tree. -/
def print : Typed → Text
  | .int n kind => ofNat n ++ letters kind
  | .bool true => "true"
  | .bool false => "false"
  | .text s => quoted s
  | .list items => '[' :: (join [','] (printItems items) ++ [']'])
  | .compound entries => '{' :: (join [','] (printEntries entries) ++ ['}'])

/-- The texts of the items of a list. -/
def printItems : List Typed → List Text
  | [] => []
  | tree :: rest => print tree :: printItems rest

/-- The texts of the entries of a compound. -/
def printEntries : List (Text × Typed) → List Text
  | [] => []
  | (name, tree) :: rest => (writeName name ++ ':' :: print tree) :: printEntries rest

end

mutual

/-- The tree without the types of its numbers. -/
def erase : Typed → Tag
  | .int n _ => .int n
  | .bool b => .bool b
  | .text s => .text s
  | .list items => .list (eraseItems items)
  | .compound entries => .compound (eraseEntries entries)

/-- The items of a list without types. -/
def eraseItems : List Typed → List Tag
  | [] => []
  | tree :: rest => erase tree :: eraseItems rest

/-- The entries of a compound without types. -/
def eraseEntries : List (Text × Typed) → List (Text × Tag)
  | [] => []
  | (name, tree) :: rest => (name, erase tree) :: eraseEntries rest

end

/-- A tree whose compounds have each name once, and in which no text and no name ends in a
backslash. -/
inductive Clean : Typed → Prop
  | int (n : Nat) (kind : Option Kind) : Clean (.int n kind)
  | bool (b : Bool) : Clean (.bool b)
  | text {s : Text} (h : s.getLast? ≠ some '\\') : Clean (.text s)
  | list {items : List Typed} (h : ∀ tree ∈ items, Clean tree) : Clean (.list items)
  | compound {entries : List (Text × Typed)} (hdistinct : (entries.map (·.1)).Nodup)
    (hnames : ∀ entry ∈ entries, entry.1.getLast? ≠ some '\\')
    (h : ∀ entry ∈ entries, Clean entry.2) : Clean (.compound entries)

/-! ## Reading, by tokens -/

/-- Whether a tree is neither a list nor a compound. -/
def isSingle : Typed → Bool
  | .list _ | .compound _ => false
  | _ => true

/-- Whether the reader stops in front of the letter of a number. A number of too many digits is read
as a word, with its letter. -/
def leavesLetter : Typed → Bool
  | .int n kind => decide (n < 10 ^ digitLimit) && kind.isSome
  | _ => false

/-- What a number is read as. -/
def number (n : Nat) (kind : Option Kind) : Tag :=
  if n < 10 ^ digitLimit then .int n else .text (ofNat n ++ letters kind)

end Typed

/-- The entries of the outermost compound, when the open ones take the tokens of a stream. -/
def finish (acc : Entries) (opens : List (Entries × Text)) : List Token → Entries
  | [] => opens.foldl (fun inner (outer, name) => outer.set name (.compound inner)) acc
  | .set name tag :: rest => finish (acc.set name tag) opens rest
  | .enter name :: rest => finish [] ((acc, name) :: opens) rest
  | .leave :: rest =>
    match opens with
    | [] => acc
    | (outer, name) :: opens => finish (outer.set name (.compound acc)) opens rest

namespace Typed

/-- The stream behind an item of a list, by the items that follow it and the stream behind the
list. -/
def afterItem (after : List Token) (items : List Typed) : List Token :=
  if !items.isEmpty && items.all isSingle then after else []

mutual

/-- The tag that the reader makes of a tree in front of a stream. -/
def settle (after : List Token) : Typed → Tag
  | .int n kind => number n kind
  | .bool b => .bool b
  | .text s => .text s
  | .list items => .list (settleItems after items)
  | .compound entries => .compound (finish [] [] (stream after entries))

/-- The tags that the reader makes of the items of a list. -/
def settleItems (after : List Token) : List Typed → List Tag
  | [] => []
  | tree :: rest => settle (afterItem after rest) tree :: settleItems after rest

/-- The stream of the entries of a compound, with what follows the compound. -/
def stream (after : List Token) : List (Text × Typed) → List Token
  | [] => .leave :: after
  | (name, .compound entries) :: rest => .enter name :: stream (stream after rest) entries
  | (name, tree) :: rest =>
    let behind := stream after rest
    .set name (settle behind tree) :: if rest.isEmpty && tree.leavesLetter then after else behind

end

/-! ## The written form -/

theorem isNameChar_letters {kind : Option Kind} {c : Char} (h : c ∈ letters kind) :
    isNameChar c = true ∧ Text.isDigit c = false ∧ c ≠ '.' := by
  cases kind with
  | none => cases h
  | some kind =>
    obtain rfl : c = kind.letter := List.mem_singleton.1 h
    cases kind <;> decide

theorem isNameChar_int {n : Nat} {kind : Option Kind} {c : Char}
    (h : c ∈ ofNat n ++ letters kind) : isNameChar c = true := by
  rcases List.mem_append.1 h with h | h
  · exact isNameChar_of_isDigit (isDigit_of_mem_ofNat h)
  · exact (isNameChar_letters h).1

theorem isNameChar_bool {b : Bool} {c : Char} (h : c ∈ print (.bool b)) : isNameChar c = true := by
  cases b with
  | true =>
    rw [print, show "true".toList = ['t', 'r', 'u', 'e'] from rfl] at h
    simp only [List.mem_cons, List.not_mem_nil, or_false] at h
    rcases h with rfl | rfl | rfl | rfl <;> decide
  | false =>
    rw [print, show "false".toList = ['f', 'a', 'l', 's', 'e'] from rfl] at h
    simp only [List.mem_cons, List.not_mem_nil, or_false] at h
    rcases h with rfl | rfl | rfl | rfl | rfl <;> decide

theorem piece_writeName {inside : Bool} {name : Text} (h : name.getLast? ≠ some '\\') :
    Piece inside (writeName name) := by
  unfold writeName
  by_cases hp : isPlainName name = true
  · rw [if_pos hp]
    exact Piece.of_isNameChar (isNameChar_of_isPlainName hp).1
  · rw [if_neg hp]
    exact Piece.quoted h

theorem mem_printItems {items : List Typed} {w : Text} :
    w ∈ printItems items ↔ ∃ tree ∈ items, print tree = w := by
  induction items with
  | nil => simp [printItems]
  | cons tree rest ih => simp [printItems, ih, eq_comm]

theorem mem_printEntries {entries : List (Text × Typed)} {w : Text} :
    w ∈ printEntries entries ↔
      ∃ entry ∈ entries, writeName entry.1 ++ ':' :: print entry.2 = w := by
  induction entries with
  | nil => simp [printEntries]
  | cons entry rest ih => simp [printEntries, ih, eq_comm]

/-- A written tree is a piece: its commas stand inside braces, brackets or quotes. -/
theorem Clean.piece {tree : Typed} (h : tree.Clean) (inside : Bool) : Piece inside tree.print := by
  induction h generalizing inside with
  | int n kind => exact Piece.of_isNameChar fun c => isNameChar_int
  | bool b => exact Piece.of_isNameChar fun c => isNameChar_bool
  | text hs => exact Piece.quoted hs
  | list hitems ih =>
    refine Piece.brackets (Piece.join fun w hw => ?_)
    obtain ⟨tree, htree, rfl⟩ := mem_printItems.1 hw
    exact ih tree htree true
  | compound hdistinct hnames hentries ih =>
    refine Piece.braces (Piece.join fun w hw => ?_)
    obtain ⟨entry, hentry, rfl⟩ := mem_printEntries.1 hw
    exact (piece_writeName (hnames entry hentry)).append
      ((Piece.inert (Or.inr rfl)).append (ih entry hentry true))

/-- What a written tree starts with. -/
theorem exists_print_eq_cons (tree : Typed) :
    ∃ c r, tree.print = c :: r ∧ isBlank c = false ∧ isGap c = false ∧ c ≠ ':' ∧
      (tree.isSingle = true → isNameChar c = true ∨ c = '"') ∧
      (tree.isSingle = false → c = '[' ∨ c = '{') := by
  have hname : ∀ c, isNameChar c = true →
      isBlank c = false ∧ isGap c = false ∧ c ≠ ':' :=
    fun c hc => ⟨isBlank_of_isNameChar hc, isGap_of_isNameChar hc, ne_of_isNameChar hc (by decide)⟩
  cases tree with
  | int n kind =>
    obtain ⟨d, r, hd⟩ := List.exists_cons_of_ne_nil (ofNat_ne_nil n)
    have hc : isNameChar d = true :=
      isNameChar_of_isDigit (isDigit_of_mem_ofNat (by rw [hd]; exact List.mem_cons_self))
    obtain ⟨h1, h2, h3⟩ := hname d hc
    exact ⟨d, r ++ letters kind, by rw [print, hd, List.cons_append], h1, h2, h3,
      fun _ => Or.inl hc, by simp [isSingle]⟩
  | bool b =>
    cases b with
    | true => exact ⟨'t', _, rfl, by decide, by decide, by decide, fun _ => Or.inl (by decide),
        by simp [isSingle]⟩
    | false => exact ⟨'f', _, rfl, by decide, by decide, by decide, fun _ => Or.inl (by decide),
        by simp [isSingle]⟩
  | text s => exact ⟨'"', _, rfl, by decide, by decide, by decide, fun _ => Or.inr rfl,
      by simp [isSingle]⟩
  | list items => exact ⟨'[', _, rfl, by decide, by decide, by decide, by simp [isSingle],
      fun _ => Or.inl rfl⟩
  | compound entries => exact ⟨'{', _, rfl, by decide, by decide, by decide, by simp [isSingle],
      fun _ => Or.inr rfl⟩

theorem isSolid_print (tree : Typed) : ItemScan.IsSolid tree.print := by
  obtain ⟨c, r, hprint, hblank, -⟩ := exists_print_eq_cons tree
  unfold ItemScan.IsSolid
  rw [hprint, List.any_cons, hblank]
  rfl

end Typed

/-! ## Texts and streams -/

/-- A text gives the open compounds the tokens of a stream. -/
def Agrees (s : Text) (tokens : List Token) : Prop :=
  ∀ acc opens, finishOpen acc opens s = finish acc opens tokens

theorem agrees_nil : Agrees [] [] := fun acc opens => finishOpen_of_stuck entriesFrom_nil acc opens

theorem agrees_bracket {c : Char} (h : c = '[' ∨ c = ']' ∨ c = '{') (s : Text) :
    Agrees (c :: s) [] :=
  fun acc opens => finishOpen_of_stuck (fun acc => entriesFrom_bracket h acc s) acc opens

namespace Agrees

variable {s : Text} {tokens : List Token} (h : Agrees s tokens)

include h

theorem comma : Agrees (',' :: s) tokens := by
  intro acc opens
  rw [finishOpen_comma, h]

theorem close : Agrees ('}' :: s) (.leave :: tokens) := by
  intro acc opens
  cases opens with
  | nil => rw [finishOpen, entriesFrom_close, finish]
  | cons outer opens => rw [finishOpen, entriesFrom_close, finish]; exact h _ opens

theorem word {w name : Text} {behind : Char}
    (hbehind : behind = ',' ∨ behind = '}' ∨ behind = ']') (hw : ReadsAsName w name behind) :
    Agrees (w ++ behind :: s) tokens := by
  intro acc opens
  rw [finishOpen_word hbehind hw, h]

omit h in
theorem entry {w name : Text} (hw : ReadsAsName w name ':') {c : Char} {r : Text}
    (hc : isGap c = false) (hcolon : c ≠ ':') {tag : Tag} {m : Nat}
    (hvalue : readValue (c :: r) = (some tag, m)) (h : Agrees ((c :: r).drop m) tokens) :
    Agrees (w ++ ':' :: c :: r) (.set name tag :: tokens) := by
  intro acc opens
  rw [finishOpen_entry hw hc hcolon hvalue, h, finish]

theorem enter {w name : Text} (hw : ReadsAsName w name ':') (hs : s.dropWhile isSeparator = s) :
    Agrees (w ++ ':' :: '{' :: s) (.enter name :: tokens) := by
  intro acc opens
  rw [finishOpen_enter hw hs, h, finish]

end Agrees

theorem readsAsName_writeName (name : Text) : ReadsAsName (writeName name) name ':' := by
  refine ⟨readName_writeName name, ?_, ?_⟩ <;> unfold writeName <;>
    by_cases hp : isPlainName name = true
  · rw [if_pos hp]
    intro c hc
    exact Or.inl ((isNameChar_of_isPlainName hp).1 c (List.mem_of_mem_head? hc))
  · rw [if_neg hp]
    intro c hc
    cases hc
    exact Or.inr rfl
  · rw [if_pos hp]
    exact (isNameChar_of_isPlainName hp).2
  · rw [if_neg hp]
    exact List.cons_ne_nil _ _

theorem readsAsName_bare {w : Text} (hw : ∀ c ∈ w, isNameChar c = true) (hne : w ≠ [])
    {behind : Char} (hbehind : isNameChar behind = false) : ReadsAsName w w behind :=
  ⟨fun rest => readName_bare hw hne (by intro c hc; cases hc; exact hbehind),
    fun c hc => Or.inl (hw c (List.mem_of_mem_head? hc)), hne⟩

namespace Typed

/-- A single item is read as a name where one is expected. -/
theorem readsAsName_print {tree : Typed} (h : tree.isSingle = true) (behind : Char)
    (hbehind : isNameChar behind = false) : ∃ name, ReadsAsName tree.print name behind := by
  obtain ⟨c, r, hprint, -⟩ := exists_print_eq_cons tree
  have hne : tree.print ≠ [] := by rw [hprint]; exact List.cons_ne_nil c r
  cases tree with
  | int n kind => exact ⟨_, readsAsName_bare (fun c => isNameChar_int) hne hbehind⟩
  | bool b => exact ⟨_, readsAsName_bare (fun c => isNameChar_bool) hne hbehind⟩
  | text s =>
    refine ⟨s, fun rest => readName_quoted s _, ?_, hne⟩
    intro c hc
    cases hc
    exact Or.inr rfl
  | list items => cases h
  | compound entries => cases h

/-! ## Items -/

theorem join_printItems_cons (tree next : Typed) (rest : List Typed) :
    join [','] (printItems (tree :: next :: rest)) =
      tree.print ++ ',' :: join [','] (printItems (next :: rest)) := by
  rw [printItems, printItems, join_cons_cons]

/-- The text behind an item that is itself followed by items. -/
theorem agrees_items {s : Text} {after : List Token} (h : Agrees s after) {items : List Typed}
    (hne : items ≠ []) :
    Agrees (join [','] (printItems items) ++ ']' :: s)
      (if items.all isSingle then after else []) := by
  induction items with
  | nil => exact absurd rfl hne
  | cons tree rest ih =>
    rw [List.all_cons]
    cases hsingle : tree.isSingle with
    | false =>
      obtain ⟨c, r, hprint, -, -, -, -, hc⟩ := exists_print_eq_cons tree
      have hc := hc hsingle
      have hstart : ∃ t, join [','] (printItems (tree :: rest)) ++ ']' :: s = c :: t := by
        cases rest with
        | nil => exact ⟨_, by rw [printItems, printItems, join, hprint, List.cons_append]⟩
        | cons next rest =>
          exact ⟨_, by rw [join_printItems_cons, hprint, List.cons_append, List.cons_append]⟩
      obtain ⟨t, ht⟩ := hstart
      rw [ht]
      exact agrees_bracket (by rcases hc with rfl | rfl <;> simp) t
    | true =>
      rw [Bool.true_and]
      cases rest with
      | nil =>
        obtain ⟨name, hname⟩ := readsAsName_print hsingle ']' (by decide)
        rw [printItems, printItems, join]
        exact h.word (by simp) hname
      | cons next rest =>
        obtain ⟨name, hname⟩ := readsAsName_print hsingle ',' (by decide)
        rw [join_printItems_cons, List.append_assoc, List.cons_append]
        exact (ih (List.cons_ne_nil _ _)).word (by simp) hname

/-! ## The reader -/

/-- What the reader leaves of a tree that is no compound: the letter of a number. -/
def leftover : Typed → Text
  | .int n kind => if n < 10 ^ digitLimit then letters kind else []
  | _ => []

theorem leftover_eq_nil {tree : Typed} (h : tree.leavesLetter = false) : tree.leftover = [] := by
  cases tree with
  | int n kind =>
    rw [leftover]
    by_cases hn : n < 10 ^ digitLimit
    · cases kind with
      | none => rw [if_pos hn]; rfl
      | some kind => simp [leavesLetter, hn] at h
    · rw [if_neg hn]
  | bool b => rfl
  | text s => rfl
  | list items => rfl
  | compound entries => rfl

/-- A letter that is left is read as a name. -/
theorem readsAsName_leftover {tree : Typed} (h : tree.leavesLetter = true) {behind : Char}
    (hbehind : isNameChar behind = false) : ∃ name, ReadsAsName tree.leftover name behind := by
  cases tree with
  | int n kind =>
    unfold leavesLetter at h
    rw [Bool.and_eq_true, decide_eq_true_eq] at h
    obtain ⟨kind, rfl⟩ := Option.isSome_iff_exists.1 h.2
    rw [leftover, if_pos h.1]
    have hne : letters (some kind) ≠ [] := List.cons_ne_nil kind.letter []
    exact ⟨_, readsAsName_bare (fun c hc => (isNameChar_letters hc).1) hne hbehind⟩
  | bool b => cases h
  | text s => cases h
  | list items => cases h
  | compound entries => cases h

/-- The reader makes of a tree what `settle` says, and of the entries of a compound what `stream`
says, whatever follows. -/
structure Reads (tree : Typed) : Prop where
  value : ∀ {s : Text} {after : List Token}, Stops s → Agrees s after →
    (readValue (tree.print ++ s)).1 = some (tree.settle after)
  left : (∀ entries, tree ≠ .compound entries) → ∀ {s : Text}, Stops s →
    (tree.print ++ s).drop (readValue (tree.print ++ s)).2 = tree.leftover ++ s
  entries : ∀ entries, tree = .compound entries → ∀ {s : Text} {after : List Token}, Agrees s after →
    Agrees (join [','] (printEntries entries) ++ '}' :: s) (stream after entries)

/-- Each item is read with the stream that follows it. -/
theorem filterMap_itemTexts {items : List Typed} (hitems : ∀ tree ∈ items, tree.Reads) {s : Text}
    {after : List Token} (h : Agrees s after) :
    (itemTexts s (printItems items)).filterMap (fun t => (readValue t).1) =
      settleItems after items := by
  induction items with
  | nil => rfl
  | cons tree rest ih =>
    have hrest := ih fun t ht => hitems t (List.mem_cons_of_mem tree ht)
    have htree := hitems tree List.mem_cons_self
    have hhead : (readValue (join [','] (printItems (tree :: rest)) ++ ']' :: s)).1 =
        some (tree.settle (afterItem after rest)) := by
      cases rest with
      | nil =>
        rw [printItems, printItems, join]
        exact htree.value (stops_cons (by simp) s) (agrees_bracket (by simp) s)
      | cons next rest =>
        rw [join_printItems_cons, List.append_assoc, List.cons_append]
        refine htree.value (stops_cons (by simp) _) (Agrees.comma ?_)
        exact agrees_items h (List.cons_ne_nil _ _)
    rw [printItems] at hhead ⊢
    rw [itemTexts, List.filterMap_cons, hhead, settleItems]
    exact congrArg _ hrest

/-! ## Entries -/

theorem stream_cons {tree : Typed} (h : ∀ entries, tree ≠ .compound entries) (after : List Token)
    (name : Text) (rest : List (Text × Typed)) :
    stream after ((name, tree) :: rest) =
      .set name (tree.settle (stream after rest)) ::
        if rest.isEmpty && tree.leavesLetter then after else stream after rest := by
  cases tree with
  | compound entries => exact absurd rfl (h entries)
  | int n kind => rw [stream]; simp
  | bool b => rw [stream]; simp
  | text s => rw [stream]; simp
  | list items => rw [stream]; simp

theorem join_printEntries_cons (name : Text) (tree : Typed) (entry : Text × Typed)
    (rest : List (Text × Typed)) :
    join [','] (printEntries ((name, tree) :: entry :: rest)) =
      writeName name ++ ':' :: (tree.print ++ ',' :: join [','] (printEntries (entry :: rest))) := by
  rw [printEntries, printEntries, join, ← printEntries, List.append_assoc, List.append_assoc,
    List.singleton_append, List.cons_append]
  exact List.cons_ne_nil _ _

theorem dropWhile_entries (entries : List (Text × Typed)) (s : Text) :
    (join [','] (printEntries entries) ++ '}' :: s).dropWhile isSeparator =
      join [','] (printEntries entries) ++ '}' :: s := by
  cases entries with
  | nil => rw [printEntries, join, List.nil_append, List.dropWhile_cons_of_neg (by decide)]
  | cons entry rest =>
    obtain ⟨name, tree⟩ := entry
    obtain ⟨c, r, hname, -, hsep, -⟩ := (readsAsName_writeName name).exists_cons
    have hstart : ∃ t, join [','] (printEntries ((name, tree) :: rest)) ++ '}' :: s = c :: t := by
      cases rest with
      | nil => exact ⟨_, by rw [printEntries, printEntries, join, hname]; rfl⟩
      | cons next rest => exact ⟨_, by rw [join_printEntries_cons, hname]; rfl⟩
    obtain ⟨t, ht⟩ := hstart
    rw [ht, List.dropWhile_cons_of_neg (by rw [hsep]; exact Bool.false_ne_true)]

/-- The written entries of a compound, its closing brace and what follows are the stream. -/
theorem agrees_entries {entries : List (Text × Typed)}
    (hentries : ∀ entry ∈ entries, entry.2.Reads) {s : Text} {after : List Token}
    (h : Agrees s after) :
    Agrees (join [','] (printEntries entries) ++ '}' :: s) (stream after entries) := by
  induction entries with
  | nil => rw [printEntries, join, List.nil_append, stream]; exact h.close
  | cons entry rest ih =>
    obtain ⟨name, tree⟩ := entry
    have hrest := ih fun e he => hentries e (List.mem_cons_of_mem _ he)
    have htree : tree.Reads := hentries (name, tree) List.mem_cons_self
    -- the text behind the value: the closing brace, or a comma and the other entries
    obtain ⟨c, t, htext, hc, hbehind, hpassed⟩ : ∃ c t,
        join [','] (printEntries ((name, tree) :: rest)) ++ '}' :: s =
          writeName name ++ ':' :: (tree.print ++ c :: t) ∧ (c = ',' ∨ c = '}') ∧
        Agrees (c :: t) (stream after rest) ∧
        Agrees t (if rest.isEmpty then after else stream after rest) := by
      cases rest with
      | nil =>
        exact ⟨'}', s, by rw [printEntries, printEntries, join, List.append_assoc, List.cons_append],
          Or.inr rfl, hrest, h⟩
      | cons next rest =>
        exact ⟨',', _, by rw [join_printEntries_cons, List.append_assoc, List.cons_append,
          List.append_assoc, List.cons_append], Or.inl rfl, hrest.comma, hrest⟩
    have hending : c = ',' ∨ c = '}' ∨ c = ']' := by rcases hc with rfl | rfl <;> simp
    have hstops : Stops (c :: t) := stops_cons hending t
    rw [htext]
    by_cases hcompound : ∃ inner, tree = .compound inner
    · obtain ⟨inner, rfl⟩ := hcompound
      rw [print, List.cons_append, List.append_assoc, List.singleton_append, stream]
      exact (htree.entries inner rfl hbehind).enter (readsAsName_writeName name)
        (dropWhile_entries inner (c :: t))
    · have hother : ∀ inner, tree ≠ .compound inner := fun inner heq => hcompound ⟨inner, heq⟩
      have hvalue := htree.value hstops hbehind
      have hleft := htree.left hother hstops
      obtain ⟨d, r, hprint, -, hgap, hcolon, -⟩ := exists_print_eq_cons tree
      rw [stream_cons hother]
      rw [hprint, List.cons_append] at hvalue hleft ⊢
      refine Agrees.entry (readsAsName_writeName name) hgap hcolon (Prod.ext hvalue rfl) ?_
      rw [hleft]
      cases hletter : tree.leavesLetter with
      | false => rw [leftover_eq_nil hletter, Bool.and_false, if_neg Bool.false_ne_true]; exact hbehind
      | true =>
        have hcname : isNameChar c = false := by rcases hc with rfl | rfl <;> decide
        obtain ⟨word, hword⟩ := readsAsName_leftover hletter hcname
        rw [Bool.and_true]
        exact hpassed.word hending hword

/-! ## Trees -/

theorem reads_of_atom {tree : Typed} (hother : ∀ entries, tree ≠ .compound entries)
    (h : ∀ {s : Text} (after : List Token), Stops s →
      ∃ m, readValue (tree.print ++ s) = (some (tree.settle after), m) ∧
        (tree.print ++ s).drop m = tree.leftover ++ s) : tree.Reads := by
  refine ⟨fun {s after} hs _ => ?_, fun _ {s} hs => ?_, fun entries heq => absurd heq (hother entries)⟩
  · obtain ⟨m, hread, -⟩ := h after hs
    rw [hread]
  · obtain ⟨m, hread, hleft⟩ := h [] hs
    rw [hread, hleft]

/-- What starts like a name is read as a single value. -/
theorem readValue_word {c : Char} (hc : isNameChar c = true) (r : Text) :
    readValue (c :: r) = readAtom (c :: r) :=
  readValue_atom (isGap_of_isNameChar hc) (ne_of_isNameChar hc (by decide))
    (ne_of_isNameChar hc (by decide)) (isQuote_of_isNameChar hc) r

theorem reads_int (n : Nat) (kind : Option Kind) : (int n kind).Reads := by
  refine reads_of_atom (by simp) fun {s} after hs => ?_
  obtain ⟨d, r, hdigits⟩ := List.exists_cons_of_ne_nil (ofNat_ne_nil n)
  have hd : isNameChar d = true :=
    isNameChar_of_isDigit (isDigit_of_mem_ofNat (by rw [hdigits]; exact List.mem_cons_self))
  have hread : readValue (ofNat n ++ (letters kind ++ s)) =
      readAtom (ofNat n ++ (letters kind ++ s)) := by
    rw [hdigits, List.cons_append, readValue_word hd]
  rw [readAtom_ofNat n (fun c => isNameChar_letters) hs] at hread
  rw [print, List.append_assoc, hread, leftover, settle, number]
  by_cases h : n < 10 ^ digitLimit
  · rw [if_pos h, if_pos h, if_pos h]
    exact ⟨_, rfl, List.drop_left⟩
  · rw [if_neg h, if_neg h, if_neg h, ← List.append_assoc]
    exact ⟨_, rfl, List.drop_left⟩

theorem reads_bool (b : Bool) : (bool b).Reads := by
  refine reads_of_atom (by simp) fun {s} after _ => ?_
  cases b with
  | true =>
    refine ⟨4, ?_, rfl⟩
    rw [print, settle, ← readAtom_true s]
    exact readValue_word (by decide) _
  | false =>
    refine ⟨5, ?_, rfl⟩
    rw [print, settle, ← readAtom_false s]
    exact readValue_word (by decide) _

theorem reads_text (t : Text) : (text t).Reads :=
  reads_of_atom (by simp) fun {s} _ _ => ⟨_, readValue_quoted t s, List.drop_left⟩

theorem reads_list {items : List Typed} (hclean : ∀ tree ∈ items, tree.Clean)
    (hitems : ∀ tree ∈ items, tree.Reads) : (list items).Reads := by
  have hpieces : ∀ w ∈ printItems items, Piece false w ∧ ItemScan.IsSolid w := by
    intro w hw
    obtain ⟨tree, htree, rfl⟩ := mem_printItems.1 hw
    exact ⟨(hclean tree htree).piece false, isSolid_print tree⟩
  have hread := readValue_list hpieces
  have hprint : ∀ s, print (list items) ++ s = '[' :: (join [','] (printItems items) ++ ']' :: s) := by
    intro s
    rw [print, List.cons_append, List.append_assoc, List.singleton_append]
  refine ⟨fun {s after} _ h => ?_, fun _ {s} _ => ?_, fun entries heq => by cases heq⟩
  · rw [hprint, hread, filterMap_itemTexts hitems h, settle]
  · have hlength : (print (list items)).length = (join [','] (printItems items)).length + 2 := by
      rw [print, List.length_cons, List.length_append, List.length_singleton]
    rw [hprint, hread, ← hprint]
    dsimp only
    rw [← hlength, List.drop_left]
    rfl

theorem reads_compound {entries : List (Text × Typed)}
    (hentries : ∀ entry ∈ entries, entry.2.Reads) : (compound entries).Reads := by
  refine ⟨fun {s after} _ h => ?_, fun hother => absurd rfl (hother entries), ?_⟩
  · have hagrees := agrees_entries hentries h [] []
    rw [finishOpen, entriesFrom, dropWhile_entries] at hagrees
    rw [print, List.cons_append, List.append_assoc, List.singleton_append, readValue_compound, settle,
      ← hagrees]
  · rintro _ ⟨rfl⟩ s after h
    exact agrees_entries hentries h

/-- The reader makes of every clean tree what `settle` says. -/
theorem Clean.reads {tree : Typed} (h : tree.Clean) : tree.Reads := by
  induction h with
  | int n kind => exact reads_int n kind
  | bool b => exact reads_bool b
  | text hs => exact reads_text _
  | list hitems ih => exact reads_list hitems ih
  | compound _ _ _ ih => exact reads_compound ih

theorem exists_print_eq_append (tree : Typed) :
    ∃ r c, tree.print = r ++ [c] ∧ isBlank c = false := by
  cases tree with
  | int n kind =>
    have hne : ofNat n ++ letters kind ≠ [] := by simp [ofNat_ne_nil]
    exact ⟨_, _, (List.dropLast_append_getLast hne).symm,
      isBlank_of_isNameChar (isNameChar_int (List.getLast_mem hne))⟩
  | bool b =>
    cases b with
    | true => exact ⟨['t', 'r', 'u'], 'e', rfl, by decide⟩
    | false => exact ⟨['f', 'a', 'l', 's'], 'e', rfl, by decide⟩
  | text s => exact ⟨_, '"', by rw [print, quoted_eq, ← List.cons_append], by decide⟩
  | list items => exact ⟨_, ']', by rw [print, ← List.cons_append], by decide⟩
  | compound entries => exact ⟨_, '}', by rw [print, ← List.cons_append], by decide⟩

theorem trim_print (tree : Typed) : trim tree.print = tree.print := by
  obtain ⟨c, r, hstart, hfirst, -⟩ := exists_print_eq_cons tree
  obtain ⟨q, d, hend, hlast⟩ := exists_print_eq_append tree
  unfold trim stripBoth stripStart
  rw [hstart, List.dropWhile_cons_of_neg (by rw [hfirst]; exact Bool.false_ne_true), ← hstart, hend,
    stripEnd_append_singleton hlast]

/-- The tag that is read from a written tree. -/
theorem Reads.read_print {tree : Typed} (h : tree.Reads) : Tag.read tree.print = tree.settle [] := by
  obtain ⟨c, r, hstart, -⟩ := exists_print_eq_cons tree
  have hvalue := h.value stops_nil agrees_nil
  rw [List.append_nil, hstart] at hvalue
  unfold Tag.read
  rw [trim_print, hstart]
  dsimp only
  rw [hvalue]
  rfl

theorem read_print {tree : Typed} (h : tree.Clean) : Tag.read tree.print = tree.settle [] :=
  h.reads.read_print

end Typed

end CommandUpgrade.Tag
