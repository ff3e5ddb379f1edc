import CommandUpgrade.Proofs.Entity.CutFields
import CommandUpgrade.Proofs.Entity.Data
import CommandUpgrade.Proofs.Selector.Parameters
import CommandUpgrade.Table.Standard

/-!
# Data in a selector

The parameters of a selector are cut at every comma, also at those inside data. Of a parameter `nbt`
only what stands in front of the first comma is converted, and each piece behind it is a parameter of its
own, or lost if it has no `=` (`upgrade_dataSelector`). So data is one parameter exactly if it has no
comma. For an entity of texts this is also when the data comes out as its conversion does: the piece in
front of the comma is closed by the conversion where the whole goes on (`upgrade_textFields_iff`).
-/

namespace CommandUpgrade

open Text

/-! ## The data parameter -/

namespace Selector

/-- The selector of the entities with given data. -/
def dataSelector (data : Text) : Text := "@e[nbt=" ++ data ++ "]"

theorem readArgument?_data (s : Text) : readArgument? ("nbt=" ++ s) = some ("nbt".toList, trim s) := by
  have hequals : '=' ∉ "nbt".toList := by decide
  have htrim : trim ("nbt=" ++ s) = "nbt".toList ++ '=' :: trimEnd s := by
    have hend := trimEnd_append_cons (show isBlank '=' = false by decide) "bt".toList s
    exact (trim_cons_of_not_isBlank (by decide) _).trans (congrArg _ hend)
  unfold readArgument?
  rw [htrim, splitFirst?_append hequals, Option.map_some]
  dsimp only
  rw [trim_trimEnd]
  exact congrArg (fun name => some (name, trim s)) (show trim "nbt".toList = "nbt".toList by decide)

/-- The data is read up to the first comma, and what is behind is read as further parameters. -/
theorem readArguments_data {n first : Text} {later : List Text} (hlast : n.getLast? = some '}')
    (hsplit : split ',' n = first :: later) :
    readArguments ("nbt=" ++ n ++ "]") = ("nbt".toList, trim first) :: later.filterMap readArgument? := by
  have hcomma : ',' ∉ "nbt=".toList := by decide
  have hstrip : stripEnd (· == ']') ("nbt=" ++ n ++ "]") = "nbt=" ++ n := by
    obtain ⟨body, rfl⟩ := List.getLast?_eq_some_iff.1 hlast
    rw [stripEnd_eq_rdropWhile, show ("]".toList : Text) = [']'] from rfl,
      List.rdropWhile_concat_pos _ _ _ rfl, ← stripEnd_eq_rdropWhile, ← List.append_assoc]
    exact stripEnd_append_singleton rfl _
  unfold readArguments
  rw [hstrip, split_append hcomma hsplit, List.filterMap_cons_some (readArgument?_data first)]

/-- The data is one parameter exactly if it has no comma. -/
theorem readArguments_data_eq_iff {n : Text} (hhead : n.head? = some '{')
    (hlast : n.getLast? = some '}') :
    readArguments ("nbt=" ++ n ++ "]") = [("nbt".toList, n)] ↔ ',' ∉ n := by
  obtain ⟨first, later, hsplit⟩ := List.exists_cons_of_ne_nil (split_ne_nil ',' n)
  rw [readArguments_data hlast hsplit]
  constructor
  · intro h
    have hfirst : trim first = n := congrArg Prod.snd (List.cons.inj h).1
    have hfree : ',' ∉ first := notMem_of_mem_split (by rw [hsplit]; exact List.mem_cons_self)
    obtain ⟨a, b, hparts, -, -⟩ := exists_trim_append first
    rw [hparts, hfirst] at hfree
    exact fun hmem => hfree (List.mem_append_right _ (List.mem_append_left _ hmem))
  · intro h
    rw [split_of_notMem h] at hsplit
    obtain ⟨rfl, rfl⟩ := List.cons.inj hsplit
    obtain ⟨body, rfl⟩ := List.getLast?_eq_some_iff.1 hlast
    have htrim : trim (body ++ ['}']) = body ++ ['}'] := by
      refine trim_eq_self_iff.2 ⟨?_, List.rdropWhile_concat_neg _ _ _ (by decide)⟩
      obtain ⟨r, hr⟩ := List.head?_eq_some_iff.1 hhead
      rw [hr]
      exact List.dropWhile_cons_of_neg (by decide)
    rw [htrim]
    rfl

/-! ## The upgraded selector -/

section Upgrade

variable (tables : Tables) (data : Text → Outcome Text)

theorem partOf_data (letter value : Text) : partOf tables data letter "nbt" value =
    (fun new => Part.texts [parameter ("nbt", new)]) <$> data value := by
  unfold partOf
  rw [if_neg (by decide), if_neg (by decide), if_neg (by decide), if_neg (by decide),
    if_neg (by decide), if_neg (by decide), if_neg (by decide), if_pos rfl]
  cases data value <;> rfl

/-- A text that is written first stays in front of all others. -/
theorem foldl_take_written (new : List Text) (args : Arguments) (parts : List Part) :
    parts.foldl Arguments.take { args with written := new ++ args.written } =
      { parts.foldl Arguments.take args with
        written := new ++ (parts.foldl Arguments.take args).written } := by
  induction parts generalizing args with
  | nil => rfl
  | cons part rest ih =>
    have htake : Arguments.take { args with written := new ++ args.written } part =
        { args.take part with written := new ++ (args.take part).written } := by
      cases part with
      | texts more => simp [Arguments.take, Arguments.add, List.append_assoc]
      | score objective value => rfl
      | bound slot side value => cases slot <;> rfl
    rw [List.foldl_cons, List.foldl_cons, htake, ih]

theorem toList_collect_texts (new : List Text) (parts : List Part) :
    (collect (Part.texts new :: parts)).toList = new ++ (collect parts).toList := by
  have hcollect : collect (Part.texts new :: parts) =
      { collect parts with written := new ++ (collect parts).written } := by
    have hfold := foldl_take_written new {} parts
    rw [show new ++ ({} : Arguments).written = [] ++ new by simp] at hfold
    exact hfold
  rw [hcollect]
  unfold Arguments.toList
  simp only [List.append_assoc]

/-- The data in front of the first comma is converted, and the pieces behind it are parameters. -/
theorem upgrade_dataSelector {n first new : Text} {later : List Text} (hlast : n.getLast? = some '}')
    (hsplit : split ',' n = first :: later) (hnew : data (trim first) = .ok new) :
    upgrade tables data (dataSelector n) =
      (fun parts => write ['e'] (parameter ("nbt", new) :: (collect parts).toList)) <$>
        partsOf tables data ['e'] (later.filterMap readArgument?) := by
  have hsolid : '[' ∉ ['e'] := by decide
  have hupgrade := upgrade_eq tables data (List.cons_ne_nil 'e' []) hsolid ("nbt=" ++ n ++ "]")
  rw [readArguments_data hlast hsplit, partsOf, List.mapM_cons, partOf_data, hnew] at hupgrade
  refine hupgrade.trans ?_
  unfold partsOf
  cases List.mapM (fun param => partOf tables data ['e'] param.1 param.2)
    (later.filterMap readArgument?) with
  | error fault => rfl
  | ok parts =>
    exact congrArg (fun list => Except.ok (write ['e'] list))
      (toList_collect_texts [parameter ("nbt", new)] parts)

theorem dataSelector_inj {s t : Text} :
    (Except.ok (dataSelector s) : Outcome Text) = .ok (dataSelector t) ↔ s = t := by
  unfold dataSelector
  rw [Except.ok.injEq, List.append_left_inj, List.append_right_inj]

variable {tables data}

/-- If all pieces behind the first one are lost, the first one is all that counts. -/
theorem upgrade_dataSelector_of_lost {n first new : Text} {later : List Text}
    (hlast : n.getLast? = some '}') (hsplit : split ',' n = first :: later)
    (hnew : data (trim first) = .ok new) (hlost : ∀ piece ∈ later, '=' ∉ piece) :
    upgrade tables data (dataSelector n) = .ok (dataSelector new) := by
  have hnone : later.filterMap readArgument? = [] := by
    refine List.filterMap_eq_nil_iff.2 fun piece hpiece => ?_
    have hfree : '=' ∉ trim piece := by
      obtain ⟨a, b, hparts, -, -⟩ := exists_trim_append piece
      have hfree := hlost piece hpiece
      rw [hparts] at hfree
      exact fun hmem => hfree (List.mem_append_right _ (List.mem_append_left _ hmem))
    unfold readArgument?
    rw [splitFirst?_of_notMem hfree]
    rfl
  rw [upgrade_dataSelector tables data hlast hsplit hnew, hnone]
  rfl

/-- The new selector begins with the conversion of the first piece. -/
theorem prefix_of_upgrade_dataSelector {n first new old : Text} {later : List Text}
    (hlast : n.getLast? = some '}') (hsplit : split ',' n = first :: later)
    (hnew : data (trim first) = .ok new)
    (h : upgrade tables data (dataSelector n) = .ok (dataSelector old)) : new <+: old ++ [']'] := by
  rw [upgrade_dataSelector tables data hlast hsplit hnew] at h
  cases hparts : partsOf tables data ['e'] (later.filterMap readArgument?) with
  | error fault =>
    rw [hparts] at h
    cases h
  | ok parts =>
    rw [hparts] at h
    have htext : write ['e'] (parameter ("nbt", new) :: (collect parts).toList) = dataSelector old :=
      Except.ok.inj h
    obtain ⟨behind, hjoin⟩ : ∃ behind, join [','] (parameter ("nbt", new) :: (collect parts).toList) =
        "nbt=" ++ new ++ behind := by
      cases (collect parts).toList with
      | nil => exact ⟨[], by simp [join, parameter]⟩
      | cons text texts => exact ⟨',' :: join [','] (text :: texts), by rw [join_cons_cons]; rfl⟩
    have hwrite : "@e[nbt=".toList ++ (new ++ (behind ++ [']'])) =
        "@e[nbt=".toList ++ (old ++ [']']) := by
      calc "@e[nbt=".toList ++ (new ++ (behind ++ [']']))
          = "@e[".toList ++ ("nbt=" ++ new ++ behind) ++ [']'] := by simp
        _ = write ['e'] (parameter ("nbt", new) :: (collect parts).toList) := by rw [← hjoin]; rfl
        _ = "@e[nbt=".toList ++ (old ++ [']']) := htext.trans (List.append_assoc _ _ _)
    exact ⟨behind ++ [']'], List.append_cancel_left hwrite⟩

/-- Data without a comma comes out as its conversion. -/
theorem upgrade_dataSelector_of_notMem {n old : Text} (hhead : n.head? = some '{')
    (hlast : n.getLast? = some '}') (hcomma : ',' ∉ n) (hold : data n = .ok old) :
    upgrade tables data (dataSelector n) = .ok (dataSelector old) := by
  have hargs := (readArguments_data_eq_iff hhead hlast).2 hcomma
  have hsplit := split_of_notMem hcomma
  rw [readArguments_data hlast hsplit] at hargs
  have htrim : trim n = n := congrArg Prod.snd (List.cons.inj hargs).1
  exact upgrade_dataSelector_of_lost hlast hsplit (by rw [htrim, hold]) (List.forall_mem_nil _)

end Upgrade

/-! ## Data of entities -/

section Entity

variable (tables : Tables) (restyle : Bool)

theorem exists_upgradeData {n : Text} (h : (trim n).head? = some '{') :
    ∃ new, Entity.upgradeData tables restyle n = .ok new := by
  obtain ⟨entries, hread⟩ := Entity.exists_read_eq_compound (Or.inr h)
  refine ⟨Entity.finish tables (.compound (Registry.standard.run entries)), ?_⟩
  unfold Entity.upgradeData
  rw [hread]
  rfl

/-- The piece up to the first comma is converted like data of its own. -/
theorem exists_upgradeData_first (body : Text) :
    ∃ first later new, split ',' ('{' :: body) = first :: later ∧
      Entity.upgradeData tables restyle (trim first) = .ok new := by
  obtain ⟨piece, later, hbody⟩ := List.exists_cons_of_ne_nil (split_ne_nil ',' body)
  have hhead : (trim (trim ('{' :: piece))).head? = some '{' := by
    rw [trim_trim, trim_cons_of_not_isBlank (by decide)]
    rfl
  obtain ⟨new, hnew⟩ := exists_upgradeData tables restyle hhead
  exact ⟨_, later, new, split_cons (by decide) hbody, hnew⟩

/-- Texts without old names come out as they are exactly if there is no comma, in them or between them. -/
theorem upgrade_textFields_iff (d : Entity.TextFields)
    (h : ∀ s ∈ d.texts, ∀ old ∈ Entity.oldNames, ¬ old <:+: s) :
    upgrade tables (Entity.upgradeData tables restyle) (dataSelector d.tag.write) =
      .ok (dataSelector d.tag.write) ↔ ',' ∉ d.tag.write := by
  have hhead : d.tag.write.head? = some '{' := by rw [d.write_tag]; rfl
  have hlast : d.tag.write.getLast? = some '}' := by
    rw [d.write_tag, ← List.cons_append]
    exact List.getLast?_concat
  constructor
  · intro hsame hcomma
    obtain ⟨first, later, field, hsplit, hsmall, ⟨s, hs, hcut⟩, hread, hprefix⟩ :=
      d.exists_cut hcomma [']']
    have hclear : ∀ old ∈ Entity.oldNames, ¬ old <:+: field.2 :=
      fun old hold hin => h s hs old hold (hin.trans hcut.isInfix)
    have hpiece := Entity.TextFields.upgradeData_one tables restyle hsmall hread hclear
    exact hprefix (prefix_of_upgrade_dataSelector hlast hsplit hpiece hsame)
  · intro hcomma
    refine upgrade_dataSelector_of_notMem hhead hlast hcomma ?_
    rw [d.upgradeData_eq_finish_tag, d.finish_tag tables h]

/-- Data is cut at its first comma. What is in front is converted, each piece behind is a parameter of
its own or lost, and the data is one parameter exactly if it has no comma. Then it comes out as its
conversion, and for texts without old names only then. Other data does so only if the conversion of the
piece in front is where that of the whole begins, and if all pieces behind are lost, only if the two are
the same. -/
theorem upgrade_data_cut_at_comma :
    (∀ body : Text,
      let n := '{' :: (body ++ ['}'])
      let result := upgrade tables (Entity.upgradeData tables restyle) (dataSelector n)
      ∃ first later new old, split ',' n = first :: later ∧
        Entity.upgradeData tables restyle (trim first) = .ok new ∧
        Entity.upgradeData tables restyle n = .ok old ∧
        result = (fun parts => write ['e'] (parameter ("nbt", new) :: (collect parts).toList)) <$>
          partsOf tables (Entity.upgradeData tables restyle) ['e'] (later.filterMap readArgument?) ∧
        (readArguments ("nbt=" ++ n ++ "]") = [("nbt".toList, n)] ↔ ',' ∉ n) ∧
        (',' ∉ n → result = .ok (dataSelector old)) ∧
        (result = .ok (dataSelector old) → new <+: old ++ [']']) ∧
        ((∀ piece ∈ later, '=' ∉ piece) → (result = .ok (dataSelector old) ↔ new = old))) ∧
    ∀ d : Entity.TextFields, (∀ s ∈ d.texts, ∀ old ∈ Entity.oldNames, ¬ old <:+: s) →
      Entity.upgradeData tables restyle d.tag.write = .ok d.tag.write ∧
      (upgrade tables (Entity.upgradeData tables restyle) (dataSelector d.tag.write) =
        .ok (dataSelector d.tag.write) ↔ ',' ∉ d.tag.write) := by
  refine ⟨fun body => ?_, fun d h => ⟨?_, upgrade_textFields_iff tables restyle d h⟩⟩
  · intro n result
    have hhead : n.head? = some '{' := rfl
    have hlast : n.getLast? = some '}' := (List.getLast?_concat : ('{' :: body ++ ['}']).getLast? = _)
    obtain ⟨first, later, new, hsplit, hnew⟩ := exists_upgradeData_first tables restyle (body ++ ['}'])
    obtain ⟨old, hold⟩ := exists_upgradeData tables restyle
      (show (trim n).head? = some '{' by rw [trim_cons_of_not_isBlank (by decide)]; rfl)
    refine ⟨first, later, new, old, hsplit, hnew, hold, upgrade_dataSelector tables _ hlast hsplit hnew,
      readArguments_data_eq_iff hhead hlast,
      fun hcomma => upgrade_dataSelector_of_notMem hhead hlast hcomma hold,
      prefix_of_upgrade_dataSelector hlast hsplit hnew, fun hlost => ?_⟩
    rw [show result = _ from upgrade_dataSelector_of_lost hlast hsplit hnew hlost, dataSelector_inj]
  · rw [d.upgradeData_eq_finish_tag, d.finish_tag tables h]

end Entity

/-- Two texts. -/
def twoTexts : Entity.TextFields :=
  ⟨[("a".toList, "x".toList), ("b".toList, "y".toList)], by decide, by decide⟩

/-- Of two texts only the first one is left. -/
theorem upgrade_data_cut_at_comma_texts :
    let n := "\x7ba:\"x\",b:\"y\"\x7d".toList
    let result := upgrade .standard (Entity.upgradeData .standard true) (dataSelector n)
    result = .ok "@e[nbt=\x7ba:\"x\"\x7d]" ∧ Entity.upgradeData .standard true n = .ok n ∧
    result ≠ .ok (dataSelector n) := by
  intro n result
  obtain ⟨hpieces, htexts⟩ := upgrade_data_cut_at_comma .standard true
  have hwrite : twoTexts.tag.write = n := by decide
  have hclear : ∀ s ∈ twoTexts.texts, ∀ old ∈ Entity.oldNames, ¬ old <:+: s := by decide
  have hcomma : ',' ∈ n := by decide
  obtain ⟨hsame, honly⟩ := htexts twoTexts hclear
  rw [hwrite] at hsame honly
  refine ⟨?_, hsame, fun h => honly.1 h hcomma⟩
  obtain ⟨first, later, new, old, hsplit, hnew, -, hresult, -⟩ := hpieces "a:\"x\",b:\"y\"".toList
  have hcut : split ',' n = ["\x7ba:\"x\"".toList, "b:\"y\"\x7d".toList] := by decide
  obtain ⟨rfl, rfl⟩ := List.cons.inj (hsplit.symm.trans hcut)
  have hsmall : IsSmall "a".toList := by decide
  have hfirst := Entity.TextFields.upgradeData_one .standard true hsmall
    (Entity.TextFields.cut_behind hsmall "x".toList []).1 (by decide)
  obtain rfl := Except.ok.inj (hnew.symm.trans hfirst)
  exact hresult

end Selector

end CommandUpgrade
