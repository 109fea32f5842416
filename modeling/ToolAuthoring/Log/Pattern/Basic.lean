/-!
# Patterns

A pattern is a regular expression over characters, as a tree. No text is ever matched against one
here; what matters is whether a pattern can be put to use at all.

* `Pattern.height` counts how deep the tree is; there is a limit.
* `Pattern.survey` follows the switches that hold at each place. While characters are meant in the
  sense of Unicode, neither kinds of characters nor letters in any case are known; while bytes are
  meant, a pattern must not stand for a part of a character.
-/

namespace ToolAuthoring

/-- How the parts of a pattern are meant. -/
structure PatternMode where
  ignoreCase : Bool
  unicode : Bool
deriving DecidableEq, Repr

/-- What a pattern switches on or off. The third switch is about how the pattern is written: with
blanks and comments between its parts. -/
structure PatternSwitches where
  ignoreCase : Option Bool
  unicode : Option Bool
  spaced : Option Bool
deriving DecidableEq, Repr

namespace PatternSwitches

/-- No switch is touched. -/
def none : PatternSwitches := ⟨.none, .none, .none⟩

end PatternSwitches

namespace PatternMode

/-- The mode in which a pattern begins. -/
def standard : PatternMode := ⟨false, true⟩

/-- The mode behind switches. -/
def switch (m : PatternMode) (s : PatternSwitches) : PatternMode :=
  ⟨s.ignoreCase.getD m.ignoreCase, s.unicode.getD m.unicode⟩

/-- Whether a character can be meant; one that is written as two hexadecimal digits is a byte. -/
def admits (m : PatternMode) (c : Char) (digits : Bool) : Bool :=
  if m.unicode then !m.ignoreCase else !(digits && 0x80 ≤ c.toNat)

/-- Whether a character of a class can be meant. -/
def admitsMember (m : PatternMode) (c : Char) : Bool :=
  if m.unicode then !m.ignoreCase else c.toNat < 0x80

/-- Whether a named class such as that of letters can be meant. -/
def admitsNamed (m : PatternMode) (negated : Bool) : Bool :=
  if m.unicode then !m.ignoreCase else !negated

/-- Whether a kind of characters such as digits can be meant. -/
def admitsKind (m : PatternMode) (negated : Bool) : Bool :=
  !m.unicode && !negated

/-- Whether a class can be meant, apart from what is in it. -/
def admitsClass (m : PatternMode) (negated : Bool) : Bool :=
  m.unicode || !negated

end PatternMode

mutual

/-- What stands between the brackets of a class: items side by side, or two sets with an operator
between them. -/
inductive PatternSet where
  | union (items : List PatternItem)
  | operation (left right : PatternSet)

/-- A part of a class: a character, a range, a named class, a kind of characters, another class. -/
inductive PatternItem where
  | char (c : Char)
  | range (first last : Char)
  | named (negated : Bool)
  | kind (negated : Bool)
  | nested (negated : Bool) (set : PatternSet)

end

/-- A regular expression. -/
inductive Pattern where
  | empty
  | switches (s : PatternSwitches)
  /-- a character, and whether it is written as two hexadecimal digits -/
  | char (c : Char) (digits : Bool)
  | anyChar
  | kind (negated : Bool)
  | set (negated : Bool) (s : PatternSet)
  /-- the begin or end of a line or text -/
  | edge
  /-- an edge of a word, or a place that is none -/
  | wordEdge
  | repetition (p : Pattern)
  | group (s : PatternSwitches) (p : Pattern)
  | sequence (ps : List Pattern)
  | choice (ps : List Pattern)

/-- The greatest of some heights, and one more if there are several. -/
def heightOf (heights : List Nat) : Nat :=
  match heights with
  | [] => 0
  | [n] => n
  | ns => ns.foldl max 0 + 1

mutual

/-- How deep the set of a class is. -/
def PatternSet.height : PatternSet → Nat
  | .union items => heightOf (PatternSet.itemHeights items)
  | .operation left right => max left.height right.height + 1

/-- How deep a part of a class is. -/
def PatternItem.height : PatternItem → Nat
  | .nested _ set => set.height + 1
  | _ => 0

/-- How deep the items of a set are. -/
def PatternSet.itemHeights : List PatternItem → List Nat
  | [] => []
  | item :: items => item.height :: PatternSet.itemHeights items

end

mutual

/-- Whether the set of a class can be meant. -/
def PatternSet.isMeant (m : PatternMode) : PatternSet → Bool
  | .union items => PatternSet.areMeant m items
  | .operation left right => left.isMeant m && right.isMeant m

/-- Whether a part of a class can be meant. -/
def PatternItem.isMeant (m : PatternMode) : PatternItem → Bool
  | .char c => m.admitsMember c
  | .range first last => m.admitsMember first && m.admitsMember last
  | .named negated => m.admitsNamed negated
  | .kind negated => m.admitsKind negated
  | .nested negated set => m.admitsClass negated && set.isMeant m

/-- Whether all items of a set can be meant. -/
def PatternSet.areMeant (m : PatternMode) : List PatternItem → Bool
  | [] => true
  | item :: items => item.isMeant m && PatternSet.areMeant m items

end

namespace Pattern

/-- The pattern of parts one behind the other. -/
def ofSequence : List Pattern → Pattern
  | [] => .empty
  | [p] => p
  | ps => .sequence ps

/-- The pattern of alternatives. -/
def ofChoice : List Pattern → Pattern
  | [] => .empty
  | [p] => p
  | ps => .choice ps

/-- The greatest height of a pattern. -/
def heightLimit : Nat := 250

mutual

/-- How deep a pattern is. -/
def height : Pattern → Nat
  | .set _ s => s.height + 1
  | .repetition p => p.height + 1
  | .group _ p => p.height + 1
  | .sequence ps => greatestHeight ps + 1
  | .choice ps => greatestHeight ps + 1
  | _ => 0

/-- How deep the deepest of some patterns is. -/
def greatestHeight : List Pattern → Nat
  | [] => 0
  | p :: ps => max p.height (greatestHeight ps)

end

mutual

/-- The mode behind a pattern that is met in a mode, and whether it asks for edges of words in the
sense of Unicode; none if a part of it cannot be meant. Switches hold up to the end of the group
around them. -/
def survey : Pattern → PatternMode → Option (PatternMode × Bool)
  | .empty, m => some (m, false)
  | .switches s, m => some (m.switch s, false)
  | .char c digits, m => if m.admits c digits then some (m, false) else none
  | .anyChar, m => if m.unicode then some (m, false) else none
  | .kind negated, m => if m.admitsKind negated then some (m, false) else none
  | .set negated s, m =>
    if m.admitsClass negated && s.isMeant m then some (m, false) else none
  | .edge, m => some (m, false)
  | .wordEdge, m => some (m, m.unicode)
  | .repetition p, m => p.survey m
  | .group s p, m => (p.survey (m.switch s)).map fun found => (m, found.2)
  | .sequence ps, m => surveyAll ps m
  | .choice ps, m => surveyAll ps m

/-- The same for patterns that are met one after the other. -/
def surveyAll : List Pattern → PatternMode → Option (PatternMode × Bool)
  | [], m => some (m, false)
  | p :: ps, m => do
    let (m, edges) ← p.survey m
    let (m, more) ← surveyAll ps m
    return (m, edges || more)

end

end Pattern

end ToolAuthoring
