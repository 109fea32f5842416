import ToolAuthoring.Proofs.Wizard.CodeState

/-!
# What an excerpt shows

The byte at which a text is cut is found by adding up the sizes of characters. So it lies behind the
bytes of those characters and of no others: whatever their sizes, the part before it is made of them,
and there always is one.

* `upTo?_take`: the part of a text before the bytes of its first characters.
* `excerpt?_of_le`, `excerpt?_of_lt`: the excerpt of a text that is short enough, and of one that is
  not.
* `CutBetween`: what it is to cut a text between characters.
* `ReviewSummary.excerpts_cutBetween`: **excerpts are cut between characters**.
-/

namespace ToolAuthoring

variable {text : String} {max : Nat}

theorem upTo?_append (s t : String) : upTo? (s ++ t) s.utf8ByteSize = some s := by
  have hvalid : String.Pos.Raw.IsValid (s ++ t) ⟨s.utf8ByteSize⟩ :=
    String.Pos.Raw.isValid_iff_exists_append.2 ⟨s, t, rfl, rfl⟩
  rw [upTo?, dif_pos hvalid]
  exact congrArg some (String.Pos.Splits.copy_sliceTo_eq ⟨rfl, rfl⟩)

/-- Before the bytes of the first characters there are these characters. -/
theorem upTo?_take (text : String) (n : Nat) :
    upTo? text (String.ofList (text.toList.take n)).utf8ByteSize =
      some (String.ofList (text.toList.take n)) := by
  have hsplit : String.ofList (text.toList.take n) ++ String.ofList (text.toList.drop n) = text := by
    rw [← String.ofList_append, List.take_append_drop, String.ofList_toList]
  have hcut := upTo?_append (String.ofList (text.toList.take n)) (String.ofList (text.toList.drop n))
  rwa [hsplit] at hcut

/-! ### Excerpts -/

theorem excerpt?_of_le (h : text.length ≤ max) : excerpt? text max = some text := by
  have hcut : (charOffsets text)[max]? = none := by
    rw [getElem?_charOffsets, if_neg (by omega)]
  rw [excerpt?, hcut]

theorem excerpt?_of_lt (h : max < text.length) :
    excerpt? text max = some (String.ofList (text.toList.take max) ++ "...") := by
  have hcut : (charOffsets text)[max]? =
      some (String.ofList (text.toList.take max)).utf8ByteSize := by
    rw [getElem?_charOffsets, if_pos h]
  rw [excerpt?, hcut]
  exact congrArg (Option.map (· ++ "...")) (upTo?_take text max)

theorem excerpt_of_le (h : text.length ≤ max) : excerpt text max = text :=
  Option.get_of_eq_some _ (excerpt?_of_le h)

theorem excerpt_of_lt (h : max < text.length) :
    excerpt text max = String.ofList (text.toList.take max) ++ "..." :=
  Option.get_of_eq_some _ (excerpt?_of_lt h)

theorem length_excerpt_le (text : String) (max : Nat) : (excerpt text max).length ≤ max + 3 := by
  rcases Nat.lt_or_ge max text.length with hlong | hshort
  · have hpart : (text.toList.take max).length ≤ max := List.length_take_le max text.toList
    have hdots : "...".length = 3 := rfl
    rw [excerpt_of_lt hlong, String.length_append, String.length_ofList, hdots]
    omega
  · rw [excerpt_of_le hshort]
    omega

/-- A text is cut between characters: at the byte at which it is cut there is a part before it, so
that there is an excerpt, and it is the one that is shown. A text of at most `max` characters is
shown whole; of a longer one the first `max` characters are shown, with dots behind them. -/
structure CutBetween (text : String) (max : Nat) : Prop where
  boundary : ∀ cut, (charOffsets text)[max]? = some cut → String.Pos.Raw.IsValid text ⟨cut⟩
  shown : excerpt? text max = some (excerpt text max)
  whole : text.length ≤ max → excerpt text max = text
  part : max < text.length → excerpt text max = String.ofList (text.toList.take max) ++ "..."
  length : (excerpt text max).length ≤ max + 3

namespace ReviewSummary

/-- Of code that has been generated the review shows no more characters than it should, and dots. -/
theorem length_codeExcerpt_le {d : Draft} {preview : Option String} {c : WizardConfig}
    {shown : String} (h : (ofDraft d preview c).codeExcerpt = some shown) :
    shown.length ≤ c.excerptLength.toNat + 3 := by
  rw [codeExcerpt_eq] at h
  cases hcode : c.codeState d preview with
  | generated code =>
    rw [hcode] at h
    cases h
    exact length_excerpt_le code c.excerptLength.toNat
  | byHand | missing =>
    rw [hcode] at h
    cases h

/-- **Excerpts are cut between characters**, whatever the sizes of these, and so the review shows no
more characters than it should, and dots. -/
theorem excerpts_cutBetween (text : String) (max : Nat) (d : Draft) (preview : Option String)
    (c : WizardConfig) :
    CutBetween text max ∧ ∀ shown, (ofDraft d preview c).codeExcerpt = some shown →
      shown.length ≤ c.excerptLength.toNat + 3 := by
  refine ⟨?_, fun _ => length_codeExcerpt_le⟩
  exact
    { boundary := fun _ => isValid_of_charOffsets
      shown := (Option.some_get (isSome_excerpt? text max)).symm
      whole := excerpt_of_le
      part := excerpt_of_lt
      length := length_excerpt_le text max }

/-- Characters of one, two, three and four bytes, and one more. -/
def mixedText : String := "aé€😀!"

/-- A draft of a tool whose code is generated. -/
def generatedDraft : Draft := { (default : Draft) with kind := some .apiCall }

/-- At the review four characters are shown. -/
def fourShown : WizardConfig := ⟨.customCode, 4, "python"⟩

/-- The text is cut behind the ten bytes of its first four characters. -/
theorem excerpts_cutBetween_mixed : (charOffsets mixedText)[4]? = some 10 ∧
    String.Pos.Raw.IsValid mixedText ⟨10⟩ ∧ 4 < mixedText.length ∧
      excerpt mixedText 4 = "aé€😀..." ∧
        (ofDraft generatedDraft (some mixedText) fourShown).codeExcerpt = some "aé€😀..." ∧
          "aé€😀...".length ≤ fourShown.excerptLength.toNat + 3 := by
  have hcut : (charOffsets mixedText)[4]? = some 10 := by decide
  have hlong : 4 < mixedText.length := by decide
  have hshown : (ofDraft generatedDraft (some mixedText) fourShown).codeExcerpt =
      some "aé€😀..." := by decide +kernel
  obtain ⟨hbetween, hreview⟩ :=
    excerpts_cutBetween mixedText 4 generatedDraft (some mixedText) fourShown
  exact ⟨hcut, hbetween.boundary 10 hcut, hlong, hbetween.part hlong, hshown,
    hreview "aé€😀..." hshown⟩

end ReviewSummary

end ToolAuthoring
