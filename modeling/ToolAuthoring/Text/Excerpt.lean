/-!
# Excerpts

A long text is shown in part. How much of it is shown is counted in characters, but a text is cut at
a byte, and a character has one to four of them. Inside a character there is no cutting.

* `upTo?`: the part of a text before a byte, if the byte lies between characters.
* `isValid_of_charOffsets`: where a character begins, a text can be cut, so that
  `isSome_excerpt?`: there is an excerpt of every text.
-/

namespace ToolAuthoring

/-- The bytes at which characters begin, if the first of them begins at `start`. -/
def offsetsFrom (start : Nat) : List Char → List Nat
  | [] => []
  | c :: cs => start :: offsetsFrom (start + c.utf8Size) cs

/-- The bytes at which the characters of a text begin. -/
def charOffsets (text : String) : List Nat :=
  offsetsFrom 0 text.toList

/-- The part of a text before a byte. There is none if the byte lies inside a character or behind
the end. -/
def upTo? (text : String) (cut : Nat) : Option String :=
  if h : String.Pos.Raw.IsValid text ⟨cut⟩ then some (text.sliceTo ⟨⟨cut⟩, h⟩).copy else none

/-- A text, with dots in place of all behind its first `max` characters. It is cut at the byte at
which the next character begins; if no text can be cut there, there is no excerpt. -/
def excerpt? (text : String) (max : Nat) : Option String :=
  match (charOffsets text)[max]? with
  | some cut => (upTo? text cut).map (· ++ "...")
  | none => some text

variable {text : String} {cut n : Nat}

theorem getElem?_offsetsFrom (start n : Nat) (cs : List Char) : (offsetsFrom start cs)[n]? =
    if n < cs.length then some (start + (String.ofList (cs.take n)).utf8ByteSize) else none := by
  induction cs generalizing start n with
  | nil => simp [offsetsFrom]
  | cons c cs ih =>
    cases n with
    | zero => simp [offsetsFrom]
    | succ n => simp [offsetsFrom, ih, String.ofList_cons, Nat.add_assoc]

/-- A character begins behind the bytes of those before it. -/
theorem getElem?_charOffsets (text : String) (n : Nat) : (charOffsets text)[n]? =
    if n < text.length then some (String.ofList (text.toList.take n)).utf8ByteSize else none := by
  rw [charOffsets, getElem?_offsetsFrom, Nat.zero_add, String.length_toList]

/-- Where a character begins, a text can be cut. -/
theorem isValid_of_charOffsets (h : (charOffsets text)[n]? = some cut) :
    String.Pos.Raw.IsValid text ⟨cut⟩ := by
  rw [getElem?_charOffsets] at h
  split at h
  · cases h
    exact String.Pos.Raw.isValid_iff_exists_take_toList.2 ⟨n, rfl⟩
  · cases h

theorem isSome_upTo?_iff : (upTo? text cut).isSome ↔ String.Pos.Raw.IsValid text ⟨cut⟩ := by
  by_cases h : String.Pos.Raw.IsValid text ⟨cut⟩ <;> simp [upTo?, h]

/-- The second character has two bytes, and there is no cutting between them. -/
example : upTo? "héllo" 2 = none ∧ upTo? "héllo" 3 = some "hé" := by
  decide

theorem isSome_excerpt? (text : String) (max : Nat) : (excerpt? text max).isSome := by
  unfold excerpt?
  split
  · rename_i cut hcut
    rw [Option.isSome_map, isSome_upTo?_iff]
    exact isValid_of_charOffsets hcut
  · rfl

/-- The first `max` characters of a text, followed by dots if something was cut off. -/
def excerpt (text : String) (max : Nat) : String :=
  (excerpt? text max).get (isSome_excerpt? text max)

end ToolAuthoring
