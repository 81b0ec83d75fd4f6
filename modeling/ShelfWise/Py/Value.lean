import ShelfWise.Py.Dict
import ShelfWise.Py.Decimal

/-!
# Dynamic values

`Value` is a value of a JSON document as the interpreter holds it. The operations are the ones
programs apply to a field whose type they do not know: truth testing, `or`, `str(x)`, `int(x)`,
`==` and `.get(key)`.

A float carries its exact value and the text `repr` gives it. The model does not tie the two, so
a statement about all floats holds in particular for the pairs the interpreter builds.
-/

namespace Py

/-- An exception with its message: a builtin one, a signal of the `decimal` module, the refusal of a
validated record with the field that failed, the answer a request handler raises, or one of a class
that the program defines. -/
inductive Exc where
  | valueError (message : String)
  | typeError (message : String)
  | overflowError (message : String)
  | keyError (message : String)
  | attributeError (message : String)
  | decimalError (signal : String)
  | validationError (model field : String)
  | httpException (statusCode : ℕ) (detail : String)
  | raised (className message : String)
deriving DecidableEq

/-- A computation goes through exactly when its steps do. -/
theorem bind_eq_ok_iff {ε α β : Type} {x : Except ε α} {f : α → Except ε β} {b : β} :
    (x >>= f) = .ok b ↔ ∃ a, x = .ok a ∧ f a = .ok b := by
  cases x with
  | error e => exact iff_of_false (fun h => nomatch h) fun ⟨_, h, _⟩ => nomatch h
  | ok a =>
    constructor
    · intro h
      exact ⟨a, rfl, h⟩
    · rintro ⟨_, ha, hb⟩
      cases ha
      exact hb

theorem ok_of_toOption {ε α : Type} {x : Except ε α} {a : α} (h : x.toOption = some a) :
    x = .ok a := by
  cases x with
  | error e => cases h
  | ok b =>
    cases h
    rfl

theorem exists_eq_ok {ε α : Type} {x : Except ε α} (h : x.toOption.isSome = true) :
    ∃ a, x = .ok a := by
  cases x with
  | error e => cases h
  | ok a => exact ⟨a, rfl⟩

/-- The exact value of a double. -/
inductive FloatValue where
  | finite (q : ℚ)
  | infinity (negative : Bool)
  | nan
deriving DecidableEq

/-- A double: its value and its shortest text. -/
structure PyFloat where
  value : FloatValue
  repr : String
deriving DecidableEq

/-- A JSON document in memory. A `dict` lists its items in insertion order. -/
inductive Value where
  | none
  | bool (b : Bool)
  | int (n : ℤ)
  | float (f : PyFloat)
  | str (s : String)
  | list (items : List Value)
  | dict (items : List (String × Value))

namespace Value

instance : Inhabited Value := ⟨none⟩

/-! ## Structural equality -/

mutual

/-- Decidable equality of values, jointly with that of lists and of items. -/
def decEq : (a b : Value) → Decidable (a = b)
  | .none, b => match b with
    | .none => isTrue rfl
    | .bool _ | .int _ | .float _ | .str _ | .list _ | .dict _ => isFalse nofun
  | .bool x, b => match b with
    | .bool y => decidable_of_iff (x = y) (by simp)
    | .none | .int _ | .float _ | .str _ | .list _ | .dict _ => isFalse nofun
  | .int x, b => match b with
    | .int y => decidable_of_iff (x = y) (by simp)
    | .none | .bool _ | .float _ | .str _ | .list _ | .dict _ => isFalse nofun
  | .float x, b => match b with
    | .float y => decidable_of_iff (x = y) (by simp)
    | .none | .bool _ | .int _ | .str _ | .list _ | .dict _ => isFalse nofun
  | .str x, b => match b with
    | .str y => decidable_of_iff (x = y) (by simp)
    | .none | .bool _ | .int _ | .float _ | .list _ | .dict _ => isFalse nofun
  | .list xs, b => match b with
    | .list ys => match decEqList xs ys with
      | isTrue h => isTrue (h ▸ rfl)
      | isFalse h => isFalse fun he => h (Value.list.inj he)
    | .none | .bool _ | .int _ | .float _ | .str _ | .dict _ => isFalse nofun
  | .dict xs, b => match b with
    | .dict ys => match decEqItems xs ys with
      | isTrue h => isTrue (h ▸ rfl)
      | isFalse h => isFalse fun he => h (Value.dict.inj he)
    | .none | .bool _ | .int _ | .float _ | .str _ | .list _ => isFalse nofun

def decEqList : (xs ys : List Value) → Decidable (xs = ys)
  | [], [] => isTrue rfl
  | [], _ :: _ => isFalse nofun
  | _ :: _, [] => isFalse nofun
  | x :: xs, y :: ys => match decEq x y, decEqList xs ys with
    | isTrue h, isTrue hs => isTrue (h ▸ hs ▸ rfl)
    | isFalse h, _ => isFalse fun he => h (List.cons.inj he).1
    | _, isFalse hs => isFalse fun he => hs (List.cons.inj he).2

def decEqItems : (xs ys : List (String × Value)) → Decidable (xs = ys)
  | [], [] => isTrue rfl
  | [], _ :: _ => isFalse nofun
  | _ :: _, [] => isFalse nofun
  | (k, x) :: xs, (l, y) :: ys => match decEq x y, decEqItems xs ys with
    | isTrue h, isTrue hs => decidable_of_iff (k = l) (by simp [h, hs])
    | isFalse h, _ => isFalse fun he => h (Prod.ext_iff.mp (List.cons.inj he).1).2
    | _, isFalse hs => isFalse fun he => hs (List.cons.inj he).2

end

instance : DecidableEq Value := decEq

/-! ## Truth and `or` -/

/-- `bool(v)`. -/
def truthy : Value → Bool
  | none => false
  | bool b => b
  | int n => n != 0
  | float f => f.value != .finite 0
  | str s => s != ""
  | list items => !items.isEmpty
  | dict items => !items.isEmpty

/-- `a or b`. -/
def orElse (a b : Value) : Value := if a.truthy then a else b

/-! ## Fields -/

/-- `obj.get(key)`; a missing key gives `None`. -/
def get (obj : List (String × Value)) (key : String) : Value := (Dict.lookup key obj).getD none

/-- `obj.get(key, default)`. -/
def getD (obj : List (String × Value)) (key : String) (default : Value) : Value :=
  (Dict.lookup key obj).getD default

/-- The items when the value is a `dict`, else none of them: `v if isinstance(v, dict) else {}`. -/
def items : Value → List (String × Value)
  | dict items => items
  | _ => []

/-- `type(v).__name__`. -/
def typeName : Value → String
  | none => "NoneType"
  | bool _ => "bool"
  | int _ => "int"
  | float _ => "float"
  | str _ => "str"
  | list _ => "list"
  | dict _ => "dict"

/-- `v.get(key)` of a value that may be no `dict`. -/
def attrGet (v : Value) (key : String) : Except Exc Value :=
  match v with
  | dict items => .ok (get items key)
  | v => .error (.attributeError ("'" ++ v.typeName ++ "' object has no attribute 'get'"))

/-- `for item in v`. -/
def iterate : Value → Except Exc (List Value)
  | list items => .ok items
  | dict items => .ok (items.map fun e => str e.1)
  | str text => .ok (text.toList.map fun c => str (String.singleton c))
  | v => .error (.typeError ("'" ++ v.typeName ++ "' object is not iterable"))

/-- `obj[key] = value`. -/
def setItem (obj : List (String × Value)) (key : String) (value : Value) : List (String × Value) :=
  Dict.setEntries key value obj

/-- `obj.setdefault(key, value)`. -/
def setDefault (obj : List (String × Value)) (key : String) (value : Value) :
    List (String × Value) :=
  if (Dict.lookup key obj).isSome then obj else setItem obj key value

/-- `obj.update(other)`. -/
def updateItems (obj other : List (String × Value)) : List (String × Value) :=
  other.foldl (fun acc e => setItem acc e.1 e.2) obj

theorem get_setItem (obj : List (String × Value)) (key key' : String) (value : Value) :
    get (setItem obj key value) key' = if key = key' then value else get obj key' := by
  unfold get setItem
  rw [Dict.lookup_setEntries]
  split <;> rfl

variable {other : List (String × Value)} {key : String}

/-- A field that an update does not name stays. -/
theorem get_updateItems_of_not_mem (h : key ∉ other.map Prod.fst) (obj : List (String × Value)) :
    get (updateItems obj other) key = get obj key := by
  induction other generalizing obj with
  | nil => rfl
  | cons e other ih =>
    rw [List.map_cons, List.mem_cons, not_or] at h
    have hstep := ih h.2 (setItem obj e.1 e.2)
    rw [get_setItem, if_neg (Ne.symm h.1)] at hstep
    exact hstep

variable {value : Value}

/-- A field that an update names once has the value of the update. -/
theorem get_updateItems_of_mem (hnodup : (other.map Prod.fst).Nodup) (h : (key, value) ∈ other)
    (obj : List (String × Value)) : get (updateItems obj other) key = value := by
  induction other generalizing obj with
  | nil => cases h
  | cons e other ih =>
    rw [List.map_cons, List.nodup_cons] at hnodup
    rcases List.mem_cons.mp h with rfl | hrest
    · have hstep := get_updateItems_of_not_mem hnodup.1 (setItem obj key value)
      rw [get_setItem, if_pos rfl] at hstep
      exact hstep
    · exact ih hnodup.2 hrest _

theorem get_setDefault_of_ne {key key' : String} (h : key ≠ key') (obj : List (String × Value))
    (value : Value) : get (setDefault obj key value) key' = get obj key' := by
  unfold setDefault
  split
  · rfl
  · rw [get_setItem, if_neg h]

theorem mem_of_get {obj : List (String × Value)} (h : get obj key = value) (hne : value ≠ none) :
    (key, value) ∈ obj := by
  unfold get at h
  cases hlookup : Dict.lookup key obj with
  | none =>
    rw [hlookup] at h
    exact absurd h.symm hne
  | some v =>
    rw [hlookup] at h
    exact h ▸ Dict.mem_of_lookup hlookup

/-! ## Text -/

/-- A character inside a quoted `repr`. -/
def reprChar (quote c : Char) : List Char :=
  if c = quote ∨ c = '\\' then ['\\', c]
  else if c = '\n' then ['\\', 'n']
  else if c = '\r' then ['\\', 'r']
  else if c = '\t' then ['\\', 't']
  else if c.toNat < 32 ∨ (127 ≤ c.toNat ∧ c.toNat ≤ 160) ∨ c.toNat = 173 then
    ['\\', 'x', Nat.digitChar (c.toNat / 16), Nat.digitChar (c.toNat % 16)]
  else [c]

/-- `repr(s)` of a text; double quotes when only single quotes occur in it. -/
def reprText (s : String) : String :=
  let quote := if s.toList.contains '\'' && !s.toList.contains '"' then '"' else '\''
  String.ofList (quote :: (s.toList.flatMap (reprChar quote) ++ [quote]))

mutual

/-- `repr(v)`. -/
def repr : Value → String
  | .none => "None"
  | .bool b => if b then "True" else "False"
  | .int n => toString n
  | .float f => f.repr
  | .str s => reprText s
  | .list items => "[" ++ reprList items ++ "]"
  | .dict items => "\x7b" ++ reprItems items ++ "\x7d"

/-- The items of a list, separated by commas. -/
def reprList : List Value → String
  | [] => ""
  | [v] => repr v
  | v :: w :: rest => repr v ++ ", " ++ reprList (w :: rest)

/-- The items of a `dict`, separated by commas. -/
def reprItems : List (String × Value) → String
  | [] => ""
  | [(k, v)] => reprText k ++ ": " ++ repr v
  | (k, v) :: e :: rest => reprText k ++ ": " ++ repr v ++ ", " ++ reprItems (e :: rest)

end

/-- `str(v)`: a text is itself, everything else prints as its `repr`. -/
def toText : Value → String
  | str s => s
  | v => repr v

@[simp] theorem toText_str (s : String) : (str s).toText = s := rfl

/-! ## Integers -/

/-- The digits of an integer literal: single underscores may stand between digits. -/
def readUnderscored : List Char → Option (List Char)
  | [] => .none
  | c :: rest => match digit? c with
    | .none => .none
    | some n => match rest with
      | [] => some [Nat.digitChar n]
      | '_' :: rest' => (readUnderscored rest').map (Nat.digitChar n :: ·)
      | c' :: rest' => (readUnderscored (c' :: rest')).map (Nat.digitChar n :: ·)

/-- The number of digits past which the interpreter refuses to convert a text. -/
def maxStrDigits : ℕ := 4300

/-- `str(n)` of an integer: the interpreter refuses to print more than 4300 digits. -/
def printInt (n : ℤ) : Except Exc String :=
  if maxStrDigits < (Nat.toDigits 10 n.natAbs).length then
    .error (.valueError ("Exceeds the limit (4300 digits) for integer string conversion; " ++
      "use sys.set_int_max_str_digits() to increase the limit"))
  else .ok (toString n)

/-- `int(s)` of a text. -/
def intOfText (s : String) : Option ℤ :=
  let (negative, body) := Decimal.readSign (stripChars s.toList)
  (readUnderscored body).bind fun ds =>
    if maxStrDigits < ds.length then .none
    else some (if negative then -(Nat.ofDigitChars 10 ds 0 : ℤ) else Nat.ofDigitChars 10 ds 0)

/-- `int(v)`. -/
def toInt : Value → Except Exc ℤ
  | bool b => .ok (if b then 1 else 0)
  | int n => .ok n
  | float f => match f.value with
    | .finite q => .ok (if q < 0 then -(-q).floor else q.floor)
    | .infinity _ => .error (.overflowError "cannot convert float infinity to integer")
    | .nan => .error (.valueError "cannot convert float NaN to integer")
  | str s => match intOfText s with
    | some n => .ok n
    | .none => .error (.valueError ("invalid literal for int() with base 10: " ++ reprText s))
  | none => .error (.typeError "int() argument must be a string or a real number, not 'NoneType'")
  | list _ => .error (.typeError "int() argument must be a string or a real number, not 'list'")
  | dict _ => .error (.typeError "int() argument must be a string or a real number, not 'dict'")

/-- `int(v)` where a type or value error gives `None`. -/
def intOrNone (value : Value) : Except Exc (Option ℤ) :=
  match value.toInt with
  | .ok n => .ok (some n)
  | .error (.overflowError message) => .error (.overflowError message)
  | .error _ => .ok .none

/-! ## Equality of the language -/

/-- The number a value is compared as; a NaN equals no number. -/
def number? : Value → Option FloatValue
  | bool b => some (.finite (if b then 1 else 0))
  | int n => some (.finite n)
  | float f => if f.value = .nan then .none else some f.value
  | _ => .none

mutual

/-- `==` on values that are not the same object. -/
def looseEq : Value → Value → Bool
  | .list xs, b => match b with
    | .list ys => looseEqList xs ys
    | _ => false
  | .dict xs, b => match b with
    | .dict ys => decide (xs.length = ys.length) && looseEqItems xs ys
    | _ => false
  | .none, b => decide (b = .none)
  | .str s, b => decide (b = .str s)
  | .bool x, b => match number? b with
    | some y => decide (number? (.bool x) = some y)
    | .none => false
  | .int x, b => match number? b with
    | some y => decide (number? (.int x) = some y)
    | .none => false
  | .float x, b => match number? b with
    | some y => decide (number? (.float x) = some y)
    | .none => false

def looseEqList : List Value → List Value → Bool
  | [], [] => true
  | x :: xs, y :: ys => looseEq x y && looseEqList xs ys
  | _, _ => false

/-- Every item of the first `dict` stands in the second one. -/
def looseEqItems : List (String × Value) → List (String × Value) → Bool
  | [], _ => true
  | (k, x) :: xs, ys => (match Dict.lookup k ys with
    | some y => looseEq x y
    | .none => false) && looseEqItems xs ys

end

/-- `a == b`, where a container compares its items by identity before it compares them by value:
a value equals itself even when a NaN stands in it. -/
def eq (a b : Value) : Bool := decide (a = b) || looseEq a b

@[simp] theorem eq_self (a : Value) : a.eq a = true := by simp [eq]

/-- Texts are equal when they are the same. -/
@[simp] theorem eq_str (a : Value) (s : String) : a.eq (str s) = decide (a = str s) := by
  by_cases h : a = str s
  · subst h
    simp
  · have hl : looseEq a (str s) = false := by
      cases a <;> simp_all [looseEq, number?, eq_comm]
    simp [eq, h, hl]

variable {xs ys : List (String × Value)} {s : String}

theorem lookup_of_looseEqItems (h : looseEqItems xs ys = true)
    (hkey : Dict.lookup key xs = some (str s)) : Dict.lookup key ys = some (str s) := by
  induction xs with
  | nil => cases hkey
  | cons x xs ih =>
    obtain ⟨k, v⟩ := x
    rw [looseEqItems, Bool.and_eq_true] at h
    rw [Dict.lookup] at hkey
    split at hkey
    · rename_i hk
      cases hkey
      have hk' : k = key := hk
      cases hy : Dict.lookup k ys with
      | none =>
        rw [hy] at h
        cases h.1
      | some y =>
        rw [hy] at h
        have hs : y = str s := of_decide_eq_true h.1
        rw [← hk', hy, hs]
    · exact ih h.2 hkey

/-- Dictionaries that are equal have the same texts. -/
theorem lookup_of_eq_dict (h : (dict xs).eq (dict ys) = true)
    (hkey : Dict.lookup key xs = some (str s)) : Dict.lookup key ys = some (str s) := by
  rcases Bool.or_eq_true_iff.mp h with hsame | hloose
  · have hitems : xs = ys := Value.dict.inj (of_decide_eq_true hsame)
    exact hitems ▸ hkey
  · exact lookup_of_looseEqItems (Bool.and_eq_true_iff.mp hloose).2 hkey

end Value

/-! ## Traversals that may raise

`xs.mapM f` applies `f` to one element after the other and stops at the first exception. When it goes
through, its result is made of the results of the elements, in their order.
-/

variable {ε α β : Type} {f : α → Except ε β}

theorem mapM_cons_eq_ok_iff {x : α} {xs : List α} {ys : List β} :
    (x :: xs).mapM f = .ok ys ↔
      ∃ y rest, f x = .ok y ∧ xs.mapM f = .ok rest ∧ ys = y :: rest := by
  rw [List.mapM_cons, bind_eq_ok_iff]
  constructor
  · rintro ⟨y, hy, hcons⟩
    obtain ⟨rest, hrest, heq⟩ := bind_eq_ok_iff.mp hcons
    exact ⟨y, rest, hy, hrest, (Except.ok.inj heq).symm⟩
  · rintro ⟨y, rest, hy, hrest, rfl⟩
    refine ⟨y, hy, ?_⟩
    rw [hrest]
    rfl

theorem mapM_nil_eq_ok_iff {ys : List β} : ([] : List α).mapM f = .ok ys ↔ ys = [] := by
  rw [List.mapM_nil]
  exact ⟨fun h => (Except.ok.inj h).symm, fun h => h ▸ rfl⟩

/-- Where the results come from. -/
theorem exists_of_mem_mapM {xs : List α} {ys : List β} (h : xs.mapM f = .ok ys) {y : β}
    (hy : y ∈ ys) : ∃ x ∈ xs, f x = .ok y := by
  induction xs generalizing ys with
  | nil =>
    rw [mapM_nil_eq_ok_iff.mp h] at hy
    cases hy
  | cons x xs ih =>
    obtain ⟨first, rest, hfirst, hrest, rfl⟩ := mapM_cons_eq_ok_iff.mp h
    rcases List.mem_cons.mp hy with rfl | hy
    · exact ⟨x, List.mem_cons_self, hfirst⟩
    · obtain ⟨x', hx', hfx'⟩ := ih hrest hy
      exact ⟨x', List.mem_cons_of_mem _ hx', hfx'⟩

/-- Every element has a result. -/
theorem exists_mem_of_mapM {xs : List α} {ys : List β} (h : xs.mapM f = .ok ys) {x : α}
    (hx : x ∈ xs) : ∃ y ∈ ys, f x = .ok y := by
  induction xs generalizing ys with
  | nil => cases hx
  | cons first xs ih =>
    obtain ⟨y, rest, hfirst, hrest, rfl⟩ := mapM_cons_eq_ok_iff.mp h
    rcases List.mem_cons.mp hx with rfl | hx
    · exact ⟨y, List.mem_cons_self, hfirst⟩
    · obtain ⟨y', hy', hfx⟩ := ih hrest hx
      exact ⟨y', List.mem_cons_of_mem _ hy', hfx⟩

/-- What is read off every result is read off the results, when `g` says what `f` leads to. -/
theorem map_eq_of_mapM {γ : Type} {xs : List α} {ys : List β} (h : xs.mapM f = .ok ys) {g : α → γ}
    {k : β → γ} (hf : ∀ x ∈ xs, ∀ y, f x = .ok y → k y = g x) : ys.map k = xs.map g := by
  induction xs generalizing ys with
  | nil => rw [mapM_nil_eq_ok_iff.mp h, List.map_nil, List.map_nil]
  | cons x xs ih =>
    obtain ⟨first, rest, hfirst, hrest, rfl⟩ := mapM_cons_eq_ok_iff.mp h
    have htail := ih hrest fun x hx => hf x (List.mem_cons_of_mem _ hx)
    rw [List.map_cons, List.map_cons, htail, hf x List.mem_cons_self first hfirst]

/-- A traversal whose steps all go through goes through. -/
theorem mapM_eq_ok {xs : List α} {g : α → β} (h : ∀ x ∈ xs, f x = .ok (g x)) :
    xs.mapM f = .ok (xs.map g) := by
  induction xs with
  | nil => rfl
  | cons x xs ih =>
    exact mapM_cons_eq_ok_iff.mpr ⟨g x, xs.map g, h x List.mem_cons_self,
      ih fun y hy => h y (List.mem_cons_of_mem _ hy), rfl⟩

/-- The results of a traversal are those of its steps, in their order. -/
theorem mapM_eq_ok_iff_forall₂ {xs : List α} {ys : List β} :
    xs.mapM f = .ok ys ↔ List.Forall₂ (fun x y => f x = .ok y) xs ys := by
  induction xs generalizing ys with
  | nil => rw [mapM_nil_eq_ok_iff, List.forall₂_nil_left_iff]
  | cons x xs ih =>
    rw [mapM_cons_eq_ok_iff, List.forall₂_cons_left_iff]
    constructor
    · rintro ⟨y, rest, hy, hrest, rfl⟩
      exact ⟨y, rest, hy, ih.mp hrest, rfl⟩
    · rintro ⟨y, rest, hy, hrest, rfl⟩
      exact ⟨y, rest, hy, ih.mpr hrest, rfl⟩

/-- A traversal looks at its function on the elements only. -/
theorem mapM_congr_of_mem {xs : List α} {g : α → Except ε β} (h : ∀ x ∈ xs, f x = g x) :
    xs.mapM f = xs.mapM g := by
  induction xs with
  | nil => rfl
  | cons x xs ih =>
    rw [List.mapM_cons, List.mapM_cons, h x List.mem_cons_self,
      ih fun y hy => h y (List.mem_cons_of_mem _ hy)]

end Py
