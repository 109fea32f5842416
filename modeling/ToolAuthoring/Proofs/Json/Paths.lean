import ToolAuthoring.Proofs.Json.Records

/-!
# Paths into values

A path leads from a value to a part of it, through members of records and items of lists.  Setting a
path of keys puts another value at its end and makes records where there are none on the way.

* `JsonValue.at?`: the value at the end of a path; `JsonValue.setAt`: the value with another one
  there.
* `JsonValue.at?_setAt_self`, `JsonValue.at?_setAt_of_apart`: **what is set is there, and every path
  that does not meet it leads to what it led to**; `JsonValue.at?_setAt_of_isScalar`: texts, numbers
  and truth values elsewhere stay.
* `Json.get?_members_value`: what the value of a written record holds under a key, where no key
  occurs twice; `Json.value_eq_setAt`: **records that are written alike but for one member**.
-/

namespace ToolAuthoring

/-- A step into a value: to a member of a record, or to an item of a list. -/
inductive PathStep where
  | member (key : String)
  | item (index : Nat)
deriving DecidableEq, Repr

/-- The items of a list, in order. -/
def Json.items : Json → List Json
  | .list js => js
  | _ => []

namespace JsonValue

/-- The members of a record, under their keys; any other value has none. -/
def members (v : JsonValue) : KeyMap String JsonValue :=
  .ofList (Json.memberValues v.json.members)

/-- The items of a list; any other value has none. -/
def items (v : JsonValue) : List JsonValue :=
  Json.values v.json.items

/-- Whether a value is a text, a number or a truth value. -/
def isScalar (v : JsonValue) : Bool :=
  match v.json with
  | .bool _ | .number _ | .text _ => true
  | _ => false

/-- The part of a value that one step leads to. -/
def child? (v : JsonValue) : PathStep → Option JsonValue
  | .member key => v.members.get? key
  | .item index => v.items[index]?

/-- The value at the end of a path. -/
def at? (v : JsonValue) : List PathStep → Option JsonValue
  | [] => some v
  | step :: path => (v.child? step).bind fun w => w.at? path

/-- The value with `x` at the end of a path of keys. Records are made where there are none on the
way. -/
def setAt (v : JsonValue) : List String → JsonValue → JsonValue
  | [], x => x
  | key :: path, x =>
    .record (v.members.insert key (((v.members.get? key).getD (.record .empty)).setAt path x))

/-- A path of keys goes through records alone, as far as there is anything on the way. -/
def Clear (v : JsonValue) : List String → Prop
  | [] => True
  | key :: path =>
    v = .record v.members ∧ ∀ w, v.members.get? key = some w → w.Clear path

/-- Neither of two paths goes through the end of the other. -/
def Apart (p q : List PathStep) : Prop :=
  ¬ p <+: q ∧ ¬ q <+: p

/-! ### Members and items -/

@[simp]
theorem value_json (v : JsonValue) : v.json.value = v :=
  ext v.canonical.json_value

@[simp]
theorem members_record (m : KeyMap String JsonValue) : (record m).members = m := by
  have hm : Json.memberValues (record m).json.members = m.entries := by
    simp [Json.memberValues_eq_map, record, Json.members, KeyMap.mapValues, Function.comp_def]
  rw [members, hm, KeyMap.ofList_entries]

@[simp]
theorem items_list (vs : List JsonValue) : (list vs).items = vs := by
  simp [items, list, Json.items, Json.values_eq_map, Function.comp_def]

@[simp]
theorem members_list (vs : List JsonValue) : (list vs).members = .empty := rfl

@[simp]
theorem items_record (m : KeyMap String JsonValue) : (record m).items = [] := rfl

@[simp]
theorem at?_nil (v : JsonValue) : v.at? [] = some v := rfl

theorem at?_cons (v : JsonValue) (step : PathStep) (path : List PathStep) :
    v.at? (step :: path) = (v.child? step).bind fun w => w.at? path := rfl

theorem child?_of_isScalar {v : JsonValue} (h : v.isScalar) (step : PathStep) :
    v.child? step = none := by
  obtain ⟨j, hj⟩ := v
  cases j with
  | null | list | record => cases h
  | bool | number | text => cases step <;> rfl

theorem path_eq_nil_of_isScalar {v w : JsonValue} {path : List PathStep} (h : v.isScalar)
    (hw : v.at? path = some w) : path = [] := by
  cases path with
  | nil => rfl
  | cons step path =>
    rw [at?_cons, child?_of_isScalar h] at hw
    cases hw

/-! ### Setting a path -/

theorem setAt_cons (v : JsonValue) (key : String) (path : List String) (x : JsonValue) :
    v.setAt (key :: path) x = .record (v.members.insert key
      (((v.members.get? key).getD (.record .empty)).setAt path x)) := rfl

theorem at?_setAt_self (v : JsonValue) (path : List String) (x : JsonValue) :
    (v.setAt path x).at? (path.map .member) = some x := by
  induction path generalizing v with
  | nil => rfl
  | cons key path ih =>
    rw [setAt_cons, List.map_cons, at?_cons, child?, members_record, KeyMap.get?_insert_self]
    exact ih _

theorem apart_cons_iff {step : PathStep} {p q : List PathStep} :
    Apart (step :: p) (step :: q) ↔ Apart p q := by
  simp [Apart, List.cons_prefix_cons]

/-- Before a member is set where there is none, nothing stands below it. -/
theorem at?_empty_of_apart {p q : List PathStep} (h : Apart p q) :
    (record .empty).at? p = none := by
  cases p with
  | nil => exact absurd List.nil_prefix h.1
  | cons step p =>
    cases step with
    | member key => rw [at?_cons, child?, members_record, KeyMap.get?_empty, Option.bind_none]
    | item index => rfl

theorem clear_empty (path : List String) : (record .empty).Clear path := by
  cases path with
  | nil => trivial
  | cons key path => exact ⟨rfl, fun w hw => by simp at hw⟩

/-- Every path that does not meet the one that is set leads to what it led to. -/
theorem at?_setAt_of_apart {v : JsonValue} {path : List String} (hv : v.Clear path)
    {p : List PathStep} (hp : Apart p (path.map .member)) (x : JsonValue) :
    (v.setAt path x).at? p = v.at? p := by
  induction path generalizing v p with
  | nil => exact absurd List.nil_prefix hp.2
  | cons key path ih =>
    cases p with
    | nil => exact absurd List.nil_prefix hp.1
    | cons step p =>
      rw [setAt_cons, at?_cons, at?_cons]
      cases step with
      | item index => rw [child?, items_record, child?, hv.1, items_record]
      | member other =>
        rw [child?, members_record, child?]
        by_cases hkey : other = key
        · subst hkey
          have hp' : Apart p (path.map .member) := apart_cons_iff.1 hp
          rw [KeyMap.get?_insert_self, Option.bind_some]
          cases hw : v.members.get? other with
          | some w => exact ih (hv.2 w hw) hp'
          | none =>
            -- the record that is made here has no members yet
            rw [Option.getD_none, ih (clear_empty path) hp', at?_empty_of_apart hp',
              Option.bind_none]
        · rw [KeyMap.get?_insert_of_ne _ hkey]

/-- A text, a number or a truth value stays where it is, unless it stands where the path ends. -/
theorem at?_setAt_of_isScalar {v : JsonValue} {path : List String} (hv : v.Clear path)
    (hend : ∀ w, v.at? (path.map .member) = some w → w.isScalar) {p : List PathStep} {s : JsonValue}
    (hs : v.at? p = some s) (hscalar : s.isScalar) (hp : p ≠ path.map .member) (x : JsonValue) :
    (v.setAt path x).at? p = some s := by
  induction path generalizing v p with
  | nil => exact absurd (path_eq_nil_of_isScalar (hend v rfl) hs) hp
  | cons key path ih =>
    cases p with
    | nil =>
      -- a record stands on the way
      obtain rfl : v = s := Option.some.inj hs
      rw [hv.1] at hscalar
      cases hscalar
    | cons step p =>
      rw [setAt_cons, at?_cons]
      rw [at?_cons] at hs
      cases step with
      | item index =>
        rw [child?, hv.1] at hs
        cases hs
      | member other =>
        rw [child?, members_record]
        rw [child?] at hs
        by_cases hkey : other = key
        · subst hkey
          obtain ⟨w, hw, hs⟩ := Option.bind_eq_some_iff.1 hs
          rw [KeyMap.get?_insert_self, Option.bind_some, hw, Option.getD_some]
          refine ih (hv.2 w hw) (fun u hu => hend u ?_) hs (fun heq => hp (by simp [heq]))
          rw [List.map_cons, at?_cons, child?, hw, Option.bind_some, hu]
        · rw [KeyMap.get?_insert_of_ne _ hkey, hs]

end JsonValue

/-! ### Written records -/

namespace Json

variable {ms ms' : List (String × Json)} {key : String}

theorem value_record (ms : List (String × Json)) :
    (record ms).value = .record (record ms).value.members := by
  rw [value, JsonValue.members_record]

/-- Where no key occurs twice, the value of a record holds under a key what is written there. -/
theorem get?_members_value (j : Json) (hn : (j.members.map (·.1)).Nodup) (key : String) :
    j.value.members.get? key = (j.member? key).map value := by
  cases j with
  | record ms =>
    have hn' : ((ms.map fun m => (m.1, m.2.value)).map (·.1)).Nodup := by
      simpa [members, Function.comp_def] using hn
    rw [value, memberValues_eq_map, JsonValue.members_record, KeyMap.get?_ofList_of_nodup hn',
      lookupEntry_map]
    rfl
  | _ => rfl

/-- Two records that are written alike but for one member are the same but for the path into that
member. -/
theorem value_eq_setAt (hn : (ms.map (·.1)).Nodup) (hn' : (ms'.map (·.1)).Nodup) {j : Json}
    {path : List String} {x : JsonValue} (hkey : (record ms').member? key = some j)
    (hset : j.value =
      ((((record ms).member? key).map value).getD (.record .empty)).setAt path x)
    (hother : ∀ other, other ≠ key → (record ms').member? other = (record ms).member? other) :
    (record ms').value = (record ms).value.setAt (key :: path) x := by
  rw [value_record ms', JsonValue.setAt_cons]
  refine congrArg JsonValue.record (KeyMap.ext_get? fun other => ?_)
  rw [KeyMap.get?_insert, get?_members_value (record ms') hn', get?_members_value (record ms) hn,
    get?_members_value (record ms) hn]
  by_cases h : other = key
  · rw [if_pos h, h, hkey, ← hset, Option.map_some]
  · rw [if_neg h, hother other h]

end Json

end ToolAuthoring
