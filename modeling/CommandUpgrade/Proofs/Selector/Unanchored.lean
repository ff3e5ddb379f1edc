import CommandUpgrade.Proofs.Selector.Parameters
import CommandUpgrade.Proofs.Text.Pattern
import CommandUpgrade.Selector.Unanchored

/-!
# Where selectors without an anchor are found

The pattern of a selector may take characters up to the next white space and go back from there, and
its brackets may reach across white space. In a command whose tokens are selectors or have no `@` it
does neither: at a selector it takes that token (`matchAt?_selectorText`) and it matches nowhere else,
so what is found are the tokens with an `@` (`map_whole_findAll`).
-/

namespace CommandUpgrade

open Text Pattern

namespace Text

/-! ## Tokens between white space -/

/-- The tokens of a text between white space. -/
def fields (s : Text) : List Text := (s.splitOnP isBlank).filter (!·.isEmpty)

theorem fields_cons_blank {c : Char} (hc : isBlank c = true) (s : Text) :
    fields (c :: s) = fields s := by
  unfold fields
  rw [List.splitOnP_cons_eq_if_modifyHead, if_pos hc]
  rfl

section Field

variable {w rest : Text} (hne : w ≠ []) (hw : ∀ c ∈ w, isBlank c = false)
  (hrest : ∀ c ∈ rest.head?, isBlank c = true)

include hne hw hrest in
theorem fields_append : fields (w ++ rest) = w :: fields rest := by
  cases rest with
  | nil =>
    unfold fields
    rw [List.append_nil, List.splitOnP_eq_singleton hw, List.splitOnP_nil]
    simp [hne]
  | cons c r =>
    have hc : isBlank c = true := hrest c rfl
    rw [fields_cons_blank hc]
    unfold fields
    rw [List.splitOnP_append_cons _ _ hc, List.splitOnP_eq_singleton hw]
    simp [hne]

/-- A text is empty, or white space or a token stands in front of it. -/
theorem fields_induction {motive : Text → Prop} (nil : motive [])
    (blank : ∀ c s, isBlank c = true → motive s → motive (c :: s))
    (field : ∀ w rest, w ≠ [] → (∀ c ∈ w, isBlank c = false) → (∀ c ∈ rest.head?, isBlank c = true) →
      motive rest → motive (w ++ rest)) (s : Text) : motive s := by
  induction hn : s.length using Nat.strong_induction_on generalizing s with
  | h n ih =>
    subst hn
    cases s with
    | nil => exact nil
    | cons c r =>
      by_cases hc : isBlank c = true
      · exact blank c r hc (ih r.length (Nat.lt_succ_self _) r rfl)
      · have hsplit : (c :: r).takeWhile (!isBlank ·) ++ (c :: r).dropWhile (!isBlank ·) = c :: r :=
          List.takeWhile_append_dropWhile
        have hlt : ((c :: r).dropWhile (!isBlank ·)).length < (c :: r).length := by
          rw [List.dropWhile_cons_of_pos (by simpa using hc), List.length_cons]
          exact Nat.lt_succ_of_le (List.dropWhile_sublist _).length_le
        rw [← hsplit]
        refine field _ _ ?_ (fun d hd => by simpa using List.mem_takeWhile_imp hd) (fun d hd => ?_)
          (ih _ hlt _ rfl)
        · rw [List.takeWhile_cons_of_pos (by simpa using hc)]
          exact List.cons_ne_nil _ _
        · have hhead := List.head?_dropWhile_not (!isBlank ·) (c :: r)
          rw [Option.mem_def.1 hd] at hhead
          simpa using hhead

end Field

/-! ## Pieces -/

theorem mem_of_mem_split {sep c : Char} {s piece : Text} (h : piece ∈ split sep s) (hc : c ∈ piece) :
    c ∈ s := by
  induction s generalizing piece with
  | nil =>
    rw [List.mem_singleton.1 h] at hc
    cases hc
  | cons d r ih =>
    by_cases hd : d = sep
    · subst hd
      rw [split_cons_sep] at h
      rcases List.mem_cons.1 h with rfl | h
      · cases hc
      · exact List.mem_cons_of_mem _ (ih h hc)
    · obtain ⟨first, others, hsplit⟩ := List.exists_cons_of_ne_nil (split_ne_nil sep r)
      rw [split_cons hd hsplit] at h
      rw [hsplit] at ih
      rcases List.mem_cons.1 h with rfl | h
      · rcases List.mem_cons.1 hc with rfl | hc
        · exact List.mem_cons_self
        · exact List.mem_cons_of_mem _ (ih List.mem_cons_self hc)
      · exact List.mem_cons_of_mem _ (ih (List.mem_cons_of_mem _ h) hc)

theorem splitFirst?_eq_some {sep : Char} {s name rest : Text}
    (h : splitFirst? sep s = some (name, rest)) : s = name ++ sep :: rest := by
  induction s generalizing name with
  | nil => cases h
  | cons c r ih =>
    rw [splitFirst?] at h
    split at h
    · rename_i hc
      cases h
      rw [hc]
      rfl
    · obtain ⟨⟨before, behind⟩, hr, heq⟩ := Option.map_eq_some_iff.1 h
      cases heq
      rw [ih hr]
      rfl

end Text

namespace Selector

/-! ## Selectors as tokens -/

/-- A selector of a kind with the text of its parameters. -/
def selectorText (kind : Char) (parameters : Text) : Text :=
  '@' :: kind :: '[' :: (parameters ++ [']'])

/-- The kind is one of the five, and the parameters have no bracket, no `@` and no white space. -/
structure IsSelector (kind : Char) (parameters : Text) : Prop where
  kind : kind ∈ ['p', 'a', 'r', 'e', 's']
  noOpening : '[' ∉ parameters
  noClosing : ']' ∉ parameters
  noAt : '@' ∉ parameters
  noBlank : ∀ c ∈ parameters, isBlank c = false

/-- A token that is a selector, or one without an `@`. -/
def IsField (w : Text) : Prop :=
  (∃ kind parameters, IsSelector kind parameters ∧ w = selectorText kind parameters) ∨ '@' ∉ w

/-- One of the parameters, which commas divide, gives the key a value. -/
def HasKey (parameters key : Text) : Prop := ∃ value, key ++ '=' :: value ∈ split ',' parameters

/-! ## What the pattern takes -/

theorem matchAt?_of_ne {c : Char} (h : c ≠ '@') (front : Option Char) (r : Text) :
    bracketed.matchAt? front (c :: r) = none := by
  unfold matchAt? bracketed
  simp only [run_append]
  rw [run, if_neg (by simpa using h.symm)]

section Selector

variable {kind : Char} {parameters rest : Text} (h : IsSelector kind parameters)
  (hrest : ∀ c ∈ rest.head?, isBlank c = true)

include h hrest

/-- Behind the bracket of a selector no further one stands before white space. -/
theorem head?_ne_of_append {u v : Text} (huv : parameters ++ ']' :: rest = u ++ v)
    (hu : ∀ c ∈ u, (!isBlank c) = true) : v.head? ≠ some '[' := by
  intro hv
  obtain ⟨v, rfl⟩ := List.head?_eq_some_iff.1 hv
  rw [← List.singleton_append, ← List.append_assoc] at huv
  rcases append_eq_append_cons huv with ⟨r, hr, -⟩ | ⟨l, rfl, hl⟩
  · have hmem : '[' ∈ parameters ++ [']'] := by rw [hr]; simp
    rcases List.mem_append.1 hmem with hmem | hmem
    · exact h.noOpening hmem
    · exact absurd (List.mem_singleton.1 hmem) (by decide)
  · -- the bracket is behind the selector, so white space is in front of it
    cases l with
    | nil => exact absurd (hrest '[' (by rw [hl]; rfl)) (by decide)
    | cons d l =>
      have hd : isBlank d = true := hrest d (by rw [hl]; rfl)
      have hd' := hu d (by simp)
      rw [hd] at hd'
      cases hd'

/-- At a selector the pattern takes the token, whatever follows behind white space. -/
theorem matchAt?_selectorText (front : Option Char) :
    bracketed.matchAt? front (selectorText kind parameters ++ rest) =
      some ⟨selectorText kind parameters, [], rest⟩ := by
  have htext : selectorText kind parameters ++ rest =
      ['@'] ++ kind :: '[' :: (parameters ++ ']' :: rest) := by simp [selectorText]
  have hkind : Pattern.of ['p', 'a', 'r', 'e', 's'] kind = true := by
    simpa [Pattern.of] using h.kind
  unfold matchAt? bracketed
  simp only [run_append]
  generalize hgo : (fun (cursor : Cursor) => _) = go
  have hend : ∀ last, go ⟨last, rest, []⟩ = some ⟨selectorText kind parameters, [], rest⟩ := by
    intro last
    rw [← hgo]
    simp
  have hclose : ∀ last, (lit "]".toList).run go ⟨last, ']' :: rest, []⟩ =
      some ⟨selectorText kind parameters, [], rest⟩ :=
    fun last => (run_lit [']']).trans (hend _)
  have hopen : ∀ last, (lit "[".toList).run ((many 0 (no [']'])).run ((lit "]".toList).run go))
      ⟨last, '[' :: (parameters ++ ']' :: rest), []⟩ =
        some ⟨selectorText kind parameters, [], rest⟩ := by
    have hparameters : ∀ c ∈ parameters, no [']'] c = true := by
      intro c hc
      have hne : c ≠ ']' := fun heq => h.noClosing (heq ▸ hc)
      simpa [no] using hne
    exact fun last => (run_lit ['[']).trans (afterMany_of_stop hparameters (by decide) hclose _)
  -- The run to the next white space comes back to the bracket of the selector: there is no other.
  have hback : ∀ last, afterMany (fun c => !isBlank c) (fun before rest =>
      (lit "[".toList).run ((many 0 (no [']'])).run ((lit "]".toList).run go)) ⟨before, rest, []⟩)
        0 last (parameters ++ ']' :: rest) = none := by
    intro last
    rw [Option.eq_none_iff_forall_ne_some]
    intro m hm
    obtain ⟨u, v, last, hu, -, huv, hrun⟩ := afterMany_eq_some hm
    obtain ⟨taken, -, w, -, ⟨rfl, -⟩, hv, -⟩ := run_takes hrun
    exact head?_ne_of_append h hrest huv hu (congrArg List.head? hv)
  rw [htext]
  refine (run_lit ['@']).trans ?_
  rw [run, if_pos hkind, run, afterMany, if_pos (by decide), Nat.zero_sub, hback, if_pos rfl, hopen]
  rfl

end Selector

/-! ## What is found -/

theorem noMatch_of_no_at {w : Text} (hw : '@' ∉ w) (rest : Text) : bracketed.NoMatch w rest := by
  intro front i hi
  rw [List.drop_append_of_le_length hi.le, List.drop_eq_getElem_cons hi, List.cons_append]
  exact matchAt?_of_ne (fun heq => hw (heq ▸ List.getElem_mem hi)) front _

/-- The texts that the pattern finds in a command are its tokens with an `@`. -/
theorem map_whole_findAll {command : Text} (h : ∀ w ∈ fields command, IsField w) :
    (bracketed.findAll command).map Match.whole = (fields command).filter ('@' ∈ ·) := by
  have go : ∀ put : Piece → Option Match, (∀ c, put (.char c) = none) → (∀ m, put (.found m) = some m) →
      ∀ front, ((pieces.go bracketed 0 front command).filterMap put).map Match.whole =
        (fields command).filter ('@' ∈ ·) := by
    intro put hchar hfound
    induction command using fields_induction with
    | nil => exact fun _ => rfl
    | blank c s hc ih =>
      intro front
      rw [fields_cons_blank hc] at h ⊢
      rw [pieces.go, matchAt?_of_ne (ne_of_isBlank hc (by decide))]
      dsimp only
      rw [List.filterMap_cons_none (hchar c), ih h]
    | field w rest hne hw hrest ih =>
      intro front
      rw [fields_append hne hw hrest] at h ⊢
      obtain ⟨hfield, hfields⟩ := List.forall_mem_cons.1 h
      rcases hfield with ⟨kind, parameters, hselector, rfl⟩ | hat
      · have hmatch := matchAt?_selectorText hselector hrest front
        obtain ⟨last, hlast⟩ :=
          exists_pieces_go_skip bracketed (kind :: '[' :: (parameters ++ [']'])) rest (some '@')
        unfold selectorText at hmatch ⊢
        rw [List.cons_append] at hmatch ⊢
        rw [pieces.go, hmatch]
        dsimp only
        rw [List.length_cons, Nat.add_sub_cancel, hlast, List.filterMap_cons_some (hfound _),
          List.map_cons, ih hfields, List.filter_cons_of_pos (by simp)]
      · obtain ⟨last, hlast⟩ := exists_pieces_go_of_noMatch (noMatch_of_no_at hat rest) front
        have hnone : (w.map Piece.char).filterMap put = [] := by
          rw [List.filterMap_map, List.filterMap_eq_nil_iff]
          exact fun c _ => hchar c
        rw [hlast, List.filterMap_append, hnone, List.nil_append, ih hfields,
          List.filter_cons_of_neg (by simpa using hat)]
  exact go _ (fun _ => rfl) (fun _ => rfl) none

/-! ## Keys -/

/-- The names that are read from a selector are the keys of its parameters. -/
theorem mem_argumentNames {kind : Char} {parameters : Text} (h : IsSelector kind parameters) {key : Text}
    (hkey : '=' ∉ key) : key ∈ argumentNames (selectorText kind parameters) ↔ HasKey parameters key := by
  have hopen : '[' ∉ ['@', kind] := by
    intro hmem
    have hkind := h.kind
    rw [List.mem_cons, List.mem_singleton] at hmem
    rcases hmem with heq | rfl
    · exact absurd heq (by decide)
    · exact absurd hkind (by decide)
  have hfirst : splitFirst? '[' (selectorText kind parameters) =
      some (['@', kind], parameters ++ [']']) := splitFirst?_append hopen _
  unfold argumentNames
  rw [hfirst]
  simp only [Option.map_some, Option.getD_some, dropLast_append_singleton, List.mem_filterMap]
  constructor
  · rintro ⟨argument, hmem, hname⟩
    obtain ⟨⟨name, value⟩, hsplit, htrim⟩ := Option.map_eq_some_iff.1 hname
    have hargument := splitFirst?_eq_some hsplit
    have hblank : ∀ c ∈ name, isBlank c = false := by
      intro c hc
      refine h.noBlank c (mem_of_mem_split hmem ?_)
      rw [hargument]
      exact List.mem_append_left _ hc
    have hself : trim name = name := stripBoth_eq_self hblank
    exact ⟨value, by rwa [← htrim, hself, ← hargument]⟩
  · rintro ⟨value, hmem⟩
    have hblank : ∀ c ∈ key, isBlank c = false :=
      fun c hc => h.noBlank c (mem_of_mem_split hmem (List.mem_append_left _ hc))
    have hself : trim key = key := stripBoth_eq_self hblank
    exact ⟨key ++ '=' :: value, hmem, by rw [splitFirst?_append hkey, Option.map_some, hself]⟩

theorem isUnanchored_iff {kind : Char} {parameters : Text} (h : IsSelector kind parameters) :
    isUnanchored (argumentNames (selectorText kind parameters)) = true ↔
      (∃ key ∈ ["dx", "dy", "dz"], HasKey parameters key.toList) ∧
      ¬ ∃ key ∈ ["x", "y", "z"], HasKey parameters key.toList := by
  have hany (keys : List String) (hkeys : ∀ key ∈ keys, '=' ∉ key.toList) :
      (keys.map String.toList).any (argumentNames (selectorText kind parameters)).contains = true ↔
        ∃ key ∈ keys, HasKey parameters key.toList := by
    rw [List.any_map, List.any_eq_true]
    refine exists_congr fun key => and_congr_right fun hmem => ?_
    rw [Function.comp_apply, List.contains_iff_mem, mem_argumentNames h (hkeys key hmem)]
  rw [← hany ["dx", "dy", "dz"] (by decide), ← hany ["x", "y", "z"] (by decide), Bool.not_eq_true,
    ← Bool.not_eq_true', ← Bool.and_eq_true]
  rfl

/-- A command whose tokens are selectors or have no `@` has an unanchored selector if and only if one of its
selectors has a key of a volume and no key of a position. -/
theorem hasUnanchored_iff (command : Text) (h : ∀ w ∈ fields command, IsField w) :
    hasUnanchored command = true ↔
      ∃ kind parameters, IsSelector kind parameters ∧ selectorText kind parameters ∈ fields command ∧
        (∃ key ∈ ["dx", "dy", "dz"], HasKey parameters key.toList) ∧
        ¬ ∃ key ∈ ["x", "y", "z"], HasKey parameters key.toList := by
  have hfound : hasUnanchored command =
      ((bracketed.findAll command).map Match.whole).any fun w => isUnanchored (argumentNames w) := by
    unfold hasUnanchored
    rw [List.any_map]
    rfl
  rw [hfound, map_whole_findAll h, List.any_eq_true]
  constructor
  · rintro ⟨w, hw, hunanchored⟩
    obtain ⟨hmem, hat⟩ := List.mem_filter.1 hw
    rcases h w hmem with ⟨kind, parameters, hselector, rfl⟩ | hno
    · exact ⟨kind, parameters, hselector, hmem, (isUnanchored_iff hselector).1 hunanchored⟩
    · exact absurd (by simpa using hat) hno
  · rintro ⟨kind, parameters, hselector, hmem, hkeys⟩
    have hat : '@' ∈ selectorText kind parameters := List.mem_cons_self
    exact ⟨_, List.mem_filter.2 ⟨hmem, by simpa using hat⟩, (isUnanchored_iff hselector).2 hkeys⟩

/-- Brackets open in front of a selector and close behind it, and only the first selector is unanchored. -/
theorem hasUnanchored_iff_brackets :
    (∀ w ∈ fields "tp @e[r=5,dx=3] a[b=1 @a[dy=2,x=1]\t]dz=4]", IsField w) ∧
    hasUnanchored "tp @e[r=5,dx=3] a[b=1 @a[dy=2,x=1]\t]dz=4]" = true := by
  have hfields : fields "tp @e[r=5,dx=3] a[b=1 @a[dy=2,x=1]\t]dz=4]" =
      ["tp".toList, selectorText 'e' "r=5,dx=3".toList, "a[b=1".toList,
        selectorText 'a' "dy=2,x=1".toList, "]dz=4]".toList] := by decide +kernel
  have hselector : ∀ kind ∈ ['p', 'a', 'r', 'e', 's'], ∀ parameters ∈ ["r=5,dx=3", "dy=2,x=1"],
      IsSelector kind parameters.toList := by
    intro kind hkind parameters hparameters
    have hchars : ∀ parameters ∈ ["r=5,dx=3", "dy=2,x=1"], '[' ∉ parameters.toList ∧
        ']' ∉ parameters.toList ∧ '@' ∉ parameters.toList ∧
        parameters.toList.all (!isBlank ·) = true := by decide +kernel
    obtain ⟨h1, h2, h3, h4⟩ := hchars parameters hparameters
    exact ⟨hkind, h1, h2, h3, by simpa using h4⟩
  have htokens : ∀ w ∈ fields "tp @e[r=5,dx=3] a[b=1 @a[dy=2,x=1]\t]dz=4]", IsField w := by
    rw [hfields]
    simp only [List.forall_mem_cons]
    exact ⟨Or.inr (by decide), Or.inl ⟨_, _, hselector _ (by decide) _ (by decide), rfl⟩,
      Or.inr (by decide), Or.inl ⟨_, _, hselector _ (by decide) _ (by decide), rfl⟩,
      Or.inr (by decide), by simp⟩
  refine ⟨htokens, (hasUnanchored_iff _ htokens).2
    ⟨'e', "r=5,dx=3".toList, hselector _ (by decide) _ (by decide), ?_, ⟨"dx", by decide, ['3'], ?_⟩, ?_⟩⟩
  · rw [hfields]
    exact List.mem_cons_of_mem _ List.mem_cons_self
  · decide +kernel
  · rintro ⟨key, hkey, value, hmem⟩
    have hpieces : split ',' "r=5,dx=3".toList = ["r=5".toList, "dx=3".toList] := by decide +kernel
    rw [hpieces] at hmem
    simp only [List.mem_cons, List.not_mem_nil, or_false] at hkey hmem
    rcases hkey with rfl | rfl | rfl <;> rcases hmem with hmem | hmem <;>
      exact absurd (List.cons.inj hmem).1 (by decide)

end Selector

end CommandUpgrade
