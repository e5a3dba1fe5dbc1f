/-
Module: Portfolio.Value
Purpose: The one dynamic value of documents: trees of null, booleans, numbers,
  texts, lists and key-value maps.
Main exports: Value, Value.sorted, Value.depth, Value.get?, Value.DistinctKeys
-/
import Portfolio.Number.Basic
import Portfolio.SortedMap

namespace Portfolio

/-- A value of a document. The entries of a map keep their order and may repeat a
key; `Value.sorted` brings them into the normal form of JSON objects. -/
inductive Value where
  | null
  | bool (b : Bool)
  | number (n : Number)
  | text (s : String)
  | list (items : List Value)
  | map (entries : List (String × Value))
  deriving Repr, Inhabited

namespace Value

/-! ### Equality -/

mutual

/-- Decides whether two values are the same tree. -/
def decEq : (a b : Value) → Decidable (a = b)
  | .null, .null => isTrue rfl
  | .bool a, .bool b => decidable_of_iff (a = b) ⟨congrArg _, Value.bool.inj⟩
  | .number a, .number b => decidable_of_iff (a = b) ⟨congrArg _, Value.number.inj⟩
  | .text a, .text b => decidable_of_iff (a = b) ⟨congrArg _, Value.text.inj⟩
  | .list as, .list bs =>
      match decEqItems as bs with
      | isTrue h => isTrue (congrArg _ h)
      | isFalse h => isFalse fun e => h (Value.list.inj e)
  | .map as, .map bs =>
      match decEqEntries as bs with
      | isTrue h => isTrue (congrArg _ h)
      | isFalse h => isFalse fun e => h (Value.map.inj e)
  | .null, .bool _ | .null, .number _ | .null, .text _ | .null, .list _ | .null, .map _
  | .bool _, .null | .bool _, .number _ | .bool _, .text _ | .bool _, .list _ | .bool _, .map _
  | .number _, .null | .number _, .bool _ | .number _, .text _ | .number _, .list _
  | .number _, .map _
  | .text _, .null | .text _, .bool _ | .text _, .number _ | .text _, .list _ | .text _, .map _
  | .list _, .null | .list _, .bool _ | .list _, .number _ | .list _, .text _ | .list _, .map _
  | .map _, .null | .map _, .bool _ | .map _, .number _ | .map _, .text _ | .map _, .list _ =>
      isFalse nofun

/-- Decides whether two item lists are the same. -/
def decEqItems : (as bs : List Value) → Decidable (as = bs)
  | [], [] => isTrue rfl
  | [], _ :: _ | _ :: _, [] => isFalse nofun
  | a :: as, b :: bs =>
      match decEq a b, decEqItems as bs with
      | isTrue h, isTrue hs => isTrue (h ▸ hs ▸ rfl)
      | isFalse h, _ => isFalse fun e => h (List.cons.inj e).1
      | _, isFalse h => isFalse fun e => h (List.cons.inj e).2

/-- Decides whether two entry lists are the same. -/
def decEqEntries : (as bs : List (String × Value)) → Decidable (as = bs)
  | [], [] => isTrue rfl
  | [], _ :: _ | _ :: _, [] => isFalse nofun
  | (k, a) :: as, (l, b) :: bs =>
      match String.decEq k l, decEq a b, decEqEntries as bs with
      | isTrue hk, isTrue h, isTrue hs => isTrue (hk ▸ h ▸ hs ▸ rfl)
      | isFalse h, _, _ => isFalse fun e => h (Prod.mk.inj (List.cons.inj e).1).1
      | _, isFalse h, _ => isFalse fun e => h (Prod.mk.inj (List.cons.inj e).1).2
      | _, _, isFalse h => isFalse fun e => h (List.cons.inj e).2

end

instance : DecidableEq Value := decEq

/-! ### Shape -/

/-- The null value stands for an absent one in most places. -/
def isNull : Value → Bool
  | .null => true
  | _ => false

def ofNat (n : Nat) : Value := .number (.int n)

/-- The first value of a key. Only maps have keys. -/
def get? (key : String) : Value → Option Value
  | .map entries => entries.lookup key
  | _ => none

mutual

/-- How many lists and maps enclose the deepest part. -/
def depth : Value → Nat
  | .list items => depthOfItems items + 1
  | .map entries => depthOfEntries entries + 1
  | _ => 0

/-- The greatest depth of any item. -/
def depthOfItems : List Value → Nat
  | [] => 0
  | v :: vs => max (depth v) (depthOfItems vs)

/-- The greatest depth of any entry's value. -/
def depthOfEntries : List (String × Value) → Nat
  | [] => 0
  | (_, v) :: es => max (depth v) (depthOfEntries es)

end

/-! ### Normal form -/

mutual

/-- Every map's entries in byte order of the keys, keeping the last value of a
repeated key. -/
def sorted : Value → Value
  | .list items => .list (sortedItems items)
  | .map entries => .map (sortEntries (sortedEntries entries))
  | .null => .null
  | .bool b => .bool b
  | .number n => .number n
  | .text s => .text s

/-- Every item in normal form. -/
def sortedItems : List Value → List Value
  | [] => []
  | v :: vs => sorted v :: sortedItems vs

/-- Every entry's value in normal form. -/
def sortedEntries : List (String × Value) → List (String × Value)
  | [] => []
  | (k, v) :: es => (k, sorted v) :: sortedEntries es

end

mutual

/-- No map of the tree holds a key twice. -/
def DistinctKeys : Value → Prop
  | .list items => DistinctKeysInItems items
  | .map entries => (entries.map (·.1)).Nodup ∧ DistinctKeysInEntries entries
  | _ => True

/-- No map inside the items holds a key twice. -/
def DistinctKeysInItems : List Value → Prop
  | [] => True
  | v :: vs => DistinctKeys v ∧ DistinctKeysInItems vs

/-- No map inside the entries' values holds a key twice. -/
def DistinctKeysInEntries : List (String × Value) → Prop
  | [] => True
  | (_, v) :: es => DistinctKeys v ∧ DistinctKeysInEntries es

end

mutual

/-- Every number of the tree is finite. -/
def allFinite : Value → Bool
  | .number (.double x) => x.isFinite
  | .list items => allFiniteItems items
  | .map entries => allFiniteEntries entries
  | _ => true

/-- Every number of the items is finite. -/
def allFiniteItems : List Value → Bool
  | [] => true
  | v :: vs => allFinite v && allFiniteItems vs

/-- Every number of the entries is finite. -/
def allFiniteEntries : List (String × Value) → Bool
  | [] => true
  | (_, v) :: es => allFinite v && allFiniteEntries es

end

end Value

end Portfolio
