import DeviceHub.Proofs.Assets.Matcher
import DeviceHub.Proofs.Text.Sigma

/-
  What a free-text search of assets finds.

  A piece of a searched text is found where its lower-case
  form is part of the text's.  That is so wherever each
  capital sigma of the piece is final in the text exactly if
  it is in the piece; and the pieces that are found in every
  text are exactly those that settle their sigmas.

  Main statements:
    * `AssetMatcher.accepts_text_iff`
    * `AssetMatcher.exists_missed`
    * `AssetMatcher.finds_settled_pieces`
-/

namespace DeviceHub

namespace AssetMatcher

theorem accepts_text_iff
    {s : String}
    {a : Asset} :
    (text s).accepts a = true ↔
      ∃ f ∈ a.searchedTexts,
        s.toList <:+: (Text.lowerCase f).toList := by
  unfold accepts Text.occursIn
  rw [List.any_eq_true]
  simp only [Text.occursInChars_iff]

/- The asset whose one text is its id. -/
theorem accepts_text_named
    {s id : String}
    (hSome : s ≠ "") :
    (text s).accepts
        (.new id "" (.location default default none)) =
          true ↔
      s.toList <:+: (Text.lowerCase id).toList := by
  have hNothing :
      ¬ s.toList <:+: (Text.lowerCase "").toList := by
    rw [Text.toList_lowerCase, String.toList_empty]
    intro hInfix
    exact hSome (String.toList_eq_nil_iff.1
      (List.infix_nil.1 hInfix))
  have hTexts : (Asset.new id ""
      (.location default default none)).searchedTexts =
        [id, ""] := rfl
  rw [accepts_text_iff, hTexts]
  simp [hNothing]

/- A piece is found where it keeps its form. -/
theorem accepts_of_keeps
    {t u v : String}
    {a : Asset}
    (hText : u ++ t ++ v ∈ a.searchedTexts)
    (hKeeps : Text.KeepsSigmas u.toList t.toList v.toList) :
    (text (Text.lowerCase t)).accepts a = true := by
  rw [accepts_text_iff]
  refine ⟨_, hText, ?_⟩
  rw [Text.toList_lowerCase, Text.toList_lowerCase,
    String.toList_append, String.toList_append,
    List.append_assoc]
  exact hKeeps.infix_lowerChars

/- With a sigma that is not settled, some asset is missed. -/
theorem exists_missed
    {t : String}
    (hSome : t ≠ "")
    (hNot : ¬ Text.SettlesSigmas t.toList) :
    ∃ (a : Asset) (f : String),
      f ∈ a.searchedTexts ∧ t.toList <:+: f.toList ∧
        (text (Text.lowerCase t)).accepts a ≠ true := by
  rcases Text.exists_missed_of_unsettled hNot with
    ⟨cs, hPiece, hMissed⟩
  refine ⟨.new (String.ofList cs) ""
    (.location default default none), String.ofList cs,
    List.mem_cons_self, ?_, (accepts_text_named
      (mt Text.lowerCase_eq_empty_iff.1 hSome)).not.2 ?_⟩
  · rw [String.toList_ofList]
    exact hPiece
  · rw [Text.toList_lowerCase, Text.toList_lowerCase,
      String.toList_ofList]
    exact hMissed

/-
  Free text finds a piece of a searched text wherever the
  capital sigmas of the piece are final in the text exactly
  if they are in the piece.  The pieces that it finds in
  every text of every asset are exactly those in which each
  capital sigma is settled.
-/
theorem finds_settled_pieces
    {t : String}
    (hSome : t ≠ "")
    (hTrim : Text.trim t = t)
    (hNot : '=' ∉ t.toList) :
    (∀ (a : Asset) (u v : String),
      u ++ t ++ v ∈ a.searchedTexts →
      Text.KeepsSigmas u.toList t.toList v.toList →
        (parse t).accepts a = true) ∧
    ((∀ (a : Asset), ∀ f ∈ a.searchedTexts,
      t.toList <:+: f.toList →
        (parse t).accepts a = true) ↔
      Text.SettlesSigmas t.toList) := by
  rw [parse_text hSome hTrim hNot]
  refine ⟨fun a u v => accepts_of_keeps, ?_, ?_⟩
  · intro hAlways
    by_contra hUnsettled
    rcases exists_missed hSome hUnsettled with
      ⟨a, f, hText, hPiece, hMissed⟩
    exact hMissed (hAlways a f hText hPiece)
  · rintro hSettles a f hText ⟨u, v, hPiece⟩
    have hWhole :
        String.ofList u ++ t ++ String.ofList v = f := by
      rw [← String.toList_inj]
      simp only [String.toList_append, String.toList_ofList]
      exact hPiece
    exact accepts_of_keeps (hWhole ▸ hText)
      (hSettles.keeps _ _)

/- A sigma between letters is found, be the last one or not. -/
theorem finds_settled_pieces_wisdom :
    Text.SettlesSigmas "ΣΟΦΙ".toList ∧
      (parse "ΣΟΦΙ").accepts
        (Asset.new "p-1" "Φ"
          (.person "ΦΙΛΟΣΟΦΙΑ" none [])) = true := by
  have hSettles : Text.SettlesSigmas "ΣΟΦΙ".toList := by
    intro front back hSplit
    cases front with
    | nil =>
        cases hSplit
        exact .inl (by decide +kernel)
    | cons c rest =>
        have hRest : ['Ο', 'Φ', 'Ι'] = rest ++ 'Σ' :: back :=
          (List.cons.inj hSplit).2
        have hLater : 'Σ' ∈ ['Ο', 'Φ', 'Ι'] := by
          rw [hRest]
          exact List.mem_append_right rest List.mem_cons_self
        exact absurd hLater (by decide)
  refine ⟨hSettles, ?_⟩
  exact (finds_settled_pieces (by decide) (by decide)
    (by decide)).2.2 hSettles _ "ΦΙΛΟΣΟΦΙΑ" (by decide)
      (by decide)

/- A street is missed in the name of its surface. -/
theorem misses_piece :
    "" ++ "ΟΔΟΣ" ++ "ΤΡΩΜΑ" ∈
        (Asset.new "r-1" "ΟΔΟΣΤΡΩΜΑ"
          (.hardware "r" none)).searchedTexts ∧
      "ΟΔΟΣ" ≠ "" ∧ Text.trim "ΟΔΟΣ" = "ΟΔΟΣ" ∧
      '=' ∉ "ΟΔΟΣ".toList ∧
      (parse "ΟΔΟΣ").accepts
        (Asset.new "r-1" "ΟΔΟΣΤΡΩΜΑ"
          (.hardware "r" none)) = false := by
  decide +kernel

end AssetMatcher

end DeviceHub
