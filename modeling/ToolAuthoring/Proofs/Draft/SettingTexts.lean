import ToolAuthoring.Draft.Basic
import ToolAuthoring.KeyMap.Lemmas

/-!
# What is read from settings

Under a key a text is read: the one that is stored there, or else a default.  A flag and the empty
text count as nothing stored.

* `Settings.textOr_eq`: what is read.
* `Settings.textOr_insert`: what is read behind a text that has been stored.
* `Settings.textOr_insert_read`: **storing what has been read is not seen**.
-/

namespace ToolAuthoring.Settings

variable {m m' : Settings} {key default : String}

theorem text?_insert (m : Settings) (k j : String) (v : Setting) :
    text? (m.insert k v) j = if j = k then v.text? else m.text? j := by
  rw [text?, KeyMap.get?_insert]
  split <;> rfl

theorem get?_ofTexts (m : KeyMap String String) (key : String) :
    (ofTexts m).get? key = (m.get? key).map .text := by
  rw [ofTexts, KeyMap.get?_mapValues]

/-- Settings are made of texts if there are only texts in them. -/
theorem exists_ofTexts (h : ∀ key v, m.get? key = some v → ∃ x, v = .text x) :
    ∃ values, m = ofTexts values := by
  refine ⟨m.mapValues fun v => v.text?.getD "", KeyMap.ext_get? fun key => ?_⟩
  rw [get?_ofTexts, KeyMap.get?_mapValues]
  cases hv : m.get? key with
  | none => rfl
  | some v =>
    obtain ⟨x, rfl⟩ := h key v hv
    rfl

theorem textOr_eq (m : Settings) (key default : String) :
    m.textOr key default = ((m.text? key).filter (· != "")).getD default := by
  unfold textOr
  cases m.text? key with
  | none => rfl
  | some s => by_cases hs : s = "" <;> simp [Option.filter_some, hs]

theorem textOr_of_get? (h : m.get? key = m'.get? key) :
    m.textOr key default = m'.textOr key default := by
  rw [textOr, textOr, text?, text?, h]

/-- What is read is the default, unless it is not empty. -/
theorem textOr_eq_default_or (m : Settings) (key default : String) :
    m.textOr key default = default ∨ m.textOr key default ≠ "" := by
  unfold textOr
  split
  · split
    · exact .inl rfl
    · exact .inr ‹_›
  · exact .inl rfl

/-- The default makes no difference exactly if a text is stored that is not empty. -/
theorem textOr_eq_textOr_iff {default' : String} :
    m.textOr key default = m.textOr key default' ↔
      (∃ x, m.text? key = some x ∧ x ≠ "") ∨ default = default' := by
  unfold textOr
  cases m.text? key with
  | none => simp
  | some s => by_cases hs : s = "" <;> simp [hs]

/-- Behind a text that has been stored, that text is read under its key, or the default if it is
empty. -/
theorem textOr_insert (m : Settings) (k j x default : String) :
    textOr (m.insert k (.text x)) j default =
      if j = k then (if x = "" then default else x) else m.textOr j default := by
  unfold textOr
  rw [text?_insert]
  by_cases hj : j = k
  · rw [if_pos hj, if_pos hj, Setting.text?]
  · rw [if_neg hj, if_neg hj]

/-- **Storing what has been read is not seen**, where a key has one default. -/
theorem textOr_insert_read {k j : String} {d d' : String} (h : j = k → d = d') :
    textOr (m.insert k (.text (m.textOr k d))) j d' = m.textOr j d' := by
  rw [textOr_insert]
  by_cases hj : j = k
  · subst hj
    rw [if_pos rfl, h rfl]
    by_cases hempty : m.textOr j d' = ""
    · rw [if_pos hempty]
      exact ((m.textOr_eq_default_or j d').resolve_right fun hne => hne hempty).symm
    · rw [if_neg hempty]
  · rw [if_neg hj]

end ToolAuthoring.Settings
