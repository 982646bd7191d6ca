import MapBacked.Template.Value

/-!
# Comparing values

Equality, order and membership. Any two values can be compared. A truth value equals the integer it
stands for, but is less than every integer: in the order the kinds of the values come first, and
only values of one kind are compared by what they are.
-/

namespace MapBacked.Template.Value

/-! ## Equality -/

mutual

/-- Whether two values are equal. A truth value equals the integer it stands for. -/
def equal : Value → Value → Bool
  | .undefined, w | .blank, w => w.isUndefined
  | .none, .none => true
  | .bool a, w => w.number? == some (if a then 1 else 0)
  | .int a, w => w.number? == some a
  | .text a, .text b => a == b
  | .list as, .list bs | .list as, .view bs | .view as, .list bs | .view as, .view bs =>
    equalItems as bs
  | .record fs, .record gs => fs.length == gs.length && equalFields fs gs
  | _, _ => false
termination_by structural v => v

def equalItems : List Value → List Value → Bool
  | [], [] => true
  | v :: vs, w :: ws => equal v w && equalItems vs ws
  | _, _ => false
termination_by structural vs => vs

/-- Whether the second record has all fields of the first one. -/
def equalFields : List (String × Value) → List (String × Value) → Bool
  | [], _ => true
  | (name, v) :: fs, gs =>
    (match NameMap.findEntry name gs with
      | some w => equal v w
      | Option.none => false) && equalFields fs gs
termination_by structural fs => fs

end

/-! ## Order -/

def rank : Value → Nat
  | .undefined | .blank => 0
  | .none => 1
  | .bool _ => 2
  | .int _ => 3
  | .text _ => 4
  | .list _ => 5
  | .record _ => 6
  | .view _ => 7

mutual

/-- The order of two values: by kind, integers by size, texts by their characters, and lists item by
item. -/
def order : Value → Value → Ordering
  | .bool a, .bool b => compare a.toNat b.toNat
  | .int a, .int b => compare a b
  | .text a, .text b => compare a b
  | .list as, .list bs | .view as, .view bs => orderItems as bs
  | .record fs, .record gs => orderFields fs gs
  | v, w => compare v.rank w.rank
termination_by structural v => v

/-- The order of two lists, a list coming behind the beginnings of it. -/
def orderItems : List Value → List Value → Ordering
  | [], [] => .eq
  | [], _ :: _ => .lt
  | _ :: _, [] => .gt
  | v :: vs, w :: ws => (order v w).then (orderItems vs ws)
termination_by structural vs => vs

/-- The order of two records, field by field. -/
def orderFields : List (String × Value) → List (String × Value) → Ordering
  | [], [] => .eq
  | [], _ :: _ => .lt
  | _ :: _, [] => .gt
  | (name, v) :: fs, (other, w) :: gs =>
    (compare name other).then ((order v w).then (orderFields fs gs))
termination_by structural fs => fs

end

/-! ## Membership -/

def occursIn (part : List Char) : List Char → Bool
  | [] => part.isEmpty
  | c :: cs => part.isPrefixOf (c :: cs) || occursIn part cs

/-- Whether the value is a part of the container. -/
def isIn (v container : Value) : Except Error Bool :=
  match container with
  | .undefined => .error .undefinedValue
  | .blank => .ok false
  | .text s => .ok (occursIn v.shown.toList s.toList)
  | .list items | .view items => .ok (items.any (equal v))
  | .record fields =>
    match v with
    | .text name => .ok (NameMap.findEntry name fields).isSome
    | _ => .ok false
  | _ => .error .badOperation

end MapBacked.Template.Value
