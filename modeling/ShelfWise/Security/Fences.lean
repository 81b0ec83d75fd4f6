import ShelfWise.Py.Value

/-!
# Fences around untrusted texts

`spotlight` and `fence_context` of `shelfwise_backend/security/gateway.py`. A text that is fenced has no
bracket of its own left, so its fences are the only ones (`spotlight_fenced`). The recursion does not look at
keys and hands tuples on as they are, so a context is fenced exactly when its keys have no bracket and its
tuples were fenced before (`context_fenced_iff`).
-/

namespace ShelfWise.Security

open Py

/-! ## One text -/

/-- `_ZERO_WIDTH`. -/
def isZeroWidth (c : Char) : Bool :=
  (0x200b ≤ c.toNat && c.toNat ≤ 0x200f) || (0x2060 ≤ c.toNat && c.toNat ≤ 0x2064) ||
    c.toNat == 0xfeff || c.toNat == 0x00ad || (0x202a ≤ c.toNat && c.toNat ≤ 0x202e)

/-- `_CONTROL`. -/
def isControl (c : Char) : Bool :=
  c.toNat ≤ 0x08 || c.toNat == 0x0b || c.toNat == 0x0c || (0x0e ≤ c.toNat && c.toNat ≤ 0x1f) ||
    c.toNat == 0x7f

/-- A fence bracket is replaced by a parenthesis. -/
def withoutBracket (c : Char) : Char := if c = '⟦' then '(' else if c = '⟧' then ')' else c

/-- `_MAX_FIELD`. -/
def maxField : ℕ := 500

/-- The text of `spotlight` between the fences. -/
def cleaned (text : String) (maxLen : ℕ) : List Char :=
  (((text.toList.filter fun c => !isZeroWidth c).filter fun c => !isControl c).map withoutBracket).take maxLen

/-- `⟦DATA⟧`. -/
def openingFence : List Char := ['⟦', 'D', 'A', 'T', 'A', '⟧']

/-- `⟦/DATA⟧`. -/
def closingFence : List Char := ['⟦', '/', 'D', 'A', 'T', 'A', '⟧']

/-- A text between a pair of fences. -/
def between (inner : List Char) : String := String.ofList (openingFence ++ inner ++ closingFence)

/-- `spotlight`. -/
def spotlight (text : String) (maxLen : ℕ) : String := between (cleaned text maxLen)

/-- A text without a fence bracket. -/
def NoBracket (text : List Char) : Prop := '⟦' ∉ text ∧ '⟧' ∉ text

/-- One pair of fences around a text without a fence bracket. -/
def IsFenced (text : String) : Prop := ∃ inner, text = between inner ∧ NoBracket inner

theorem withoutBracket_ne (c : Char) : withoutBracket c ≠ '⟦' ∧ withoutBracket c ≠ '⟧' := by
  unfold withoutBracket
  split
  · decide
  · next hopen =>
    split
    · decide
    · next hclose => exact ⟨hopen, hclose⟩

theorem noBracket_cleaned (text : String) (maxLen : ℕ) : NoBracket (cleaned text maxLen) := by
  have hmem : ∀ c ∈ cleaned text maxLen, c ≠ '⟦' ∧ c ≠ '⟧' := fun c hc => by
    obtain ⟨c', -, rfl⟩ := List.mem_map.mp (List.mem_of_mem_take hc)
    exact withoutBracket_ne c'
  exact ⟨fun h => (hmem _ h).1 rfl, fun h => (hmem _ h).2 rfl⟩

/-- A text that is spotlighted is fenced, whatever it was. -/
theorem spotlight_fenced (text : String) (maxLen : ℕ) : IsFenced (spotlight text maxLen) :=
  ⟨cleaned text maxLen, rfl, noBracket_cleaned text maxLen⟩

/-! ## Closing fences -/

/-- How many closing fences a text shows. -/
def closingFences : List Char → ℕ
  | [] => 0
  | c :: rest => (if closingFence <+: c :: rest then 1 else 0) + closingFences rest

theorem closingFences_of_ne {c : Char} (h : c ≠ '⟦') (rest : List Char) :
    closingFences (c :: rest) = closingFences rest := by
  have hfence : ¬ closingFence <+: c :: rest := fun hfence => by
    obtain ⟨more, hmore⟩ := hfence
    exact h (List.cons.inj hmore).1.symm
  rw [closingFences, if_neg hfence, Nat.zero_add]

theorem closingFences_append {inner : List Char} (h : '⟦' ∉ inner) (rest : List Char) :
    closingFences (inner ++ rest) = closingFences rest := by
  induction inner with
  | nil => rfl
  | cons c inner ih =>
    rw [List.mem_cons, not_or] at h
    rw [List.cons_append, closingFences_of_ne fun heq => h.1 heq.symm, ih h.2]

theorem closingFences_of_noBracket {text : List Char} (h : NoBracket text) : closingFences text = 0 := by
  have happend := closingFences_append h.1 []
  rw [List.append_nil] at happend
  exact happend

/-- A fenced text shows one closing fence. -/
theorem closingFences_of_fenced {text : String} (h : IsFenced text) : closingFences text.toList = 1 := by
  obtain ⟨inner, rfl, hinner⟩ := h
  have hopening : ¬ closingFence <+: openingFence ++ inner ++ closingFence := fun hfence => by
    obtain ⟨more, hmore⟩ := hfence
    have hsecond := (List.cons.inj (List.cons.inj hmore).2).1
    exact absurd hsecond (by decide)
  have hdata : '⟦' ∉ openingFence.tail ++ inner := fun hmem => by
    rcases List.mem_append.mp hmem with hmem | hmem
    · exact absurd hmem (by decide)
    · exact hinner.1 hmem
  have hclosing : closingFences closingFence = 1 := by decide
  have hsplit : openingFence ++ inner ++ closingFence =
      '⟦' :: (openingFence.tail ++ inner ++ closingFence) := rfl
  rw [between, String.toList_ofList, hsplit, closingFences, ← hsplit, if_neg hopening, Nat.zero_add,
    closingFences_append hdata, hclosing]

/-! ## Contexts -/

/-- A value of a context. -/
inductive ContextValue where
  | none
  | bool (b : Bool)
  | int (n : ℤ)
  | float (f : PyFloat)
  | str (text : String)
  | list (items : List ContextValue)
  | tuple (items : List ContextValue)
  | dict (items : List (String × ContextValue))

mutual

/-- `_fence_value`. -/
def fenceValue : ContextValue → ContextValue
  | .str text => .str (spotlight text maxField)
  | .dict items => .dict (fenceItems items)
  | .list items => .list (fenceList items)
  | .none => .none
  | .bool b => .bool b
  | .int n => .int n
  | .float f => .float f
  | .tuple items => .tuple items

def fenceList : List ContextValue → List ContextValue
  | [] => []
  | value :: rest => fenceValue value :: fenceList rest

def fenceItems : List (String × ContextValue) → List (String × ContextValue)
  | [] => []
  | (key, value) :: rest => (key, fenceValue value) :: fenceItems rest

end

/-- `fence_context`. -/
def fenceContext (context : List (String × ContextValue)) : List (String × ContextValue) :=
  fenceItems context

mutual

/-- Every text in the value is fenced, and no key has a fence bracket. -/
def Fenced : ContextValue → Prop
  | .str text => IsFenced text
  | .dict items => FencedItems items
  | .list items => FencedList items
  | .tuple items => FencedList items
  | .none => True
  | .bool _ => True
  | .int _ => True
  | .float _ => True

def FencedList : List ContextValue → Prop
  | [] => True
  | value :: rest => Fenced value ∧ FencedList rest

def FencedItems : List (String × ContextValue) → Prop
  | [] => True
  | (key, value) :: rest => NoBracket key.toList ∧ Fenced value ∧ FencedItems rest

end

mutual

/-- The value has no key with a fence bracket, and its tuples are fenced as they are. -/
def Harmless : ContextValue → Prop
  | .dict items => HarmlessItems items
  | .list items => HarmlessList items
  | .tuple items => FencedList items
  | .str _ => True
  | .none => True
  | .bool _ => True
  | .int _ => True
  | .float _ => True

def HarmlessList : List ContextValue → Prop
  | [] => True
  | value :: rest => Harmless value ∧ HarmlessList rest

def HarmlessItems : List (String × ContextValue) → Prop
  | [] => True
  | (key, value) :: rest => NoBracket key.toList ∧ Harmless value ∧ HarmlessItems rest

end

mutual

theorem fenced_fenceValue_iff (value : ContextValue) : Fenced (fenceValue value) ↔ Harmless value := by
  cases value with
  | str text => exact iff_of_true (spotlight_fenced text maxField) trivial
  | dict items =>
    rw [fenceValue, Fenced, Harmless]
    exact fencedItems_fenceItems_iff items
  | list items =>
    rw [fenceValue, Fenced, Harmless]
    exact fencedList_fenceList_iff items
  | tuple items => rw [fenceValue, Fenced, Harmless]
  | none | bool b | int n | float f => exact iff_of_true trivial trivial

theorem fencedList_fenceList_iff (values : List ContextValue) :
    FencedList (fenceList values) ↔ HarmlessList values := by
  cases values with
  | nil => exact iff_of_true trivial trivial
  | cons value rest =>
    rw [fenceList, FencedList, HarmlessList, fenced_fenceValue_iff value, fencedList_fenceList_iff rest]

theorem fencedItems_fenceItems_iff (items : List (String × ContextValue)) :
    FencedItems (fenceItems items) ↔ HarmlessItems items := by
  cases items with
  | nil => exact iff_of_true trivial trivial
  | cons item rest =>
    rw [fenceItems, FencedItems, HarmlessItems, fenced_fenceValue_iff item.2,
      fencedItems_fenceItems_iff rest]

end

/-! ## What a prompt shows -/

mutual

/-- How many text values there are. -/
def textCount : ContextValue → ℕ
  | .str _ => 1
  | .dict items => textCountItems items
  | .list items => textCountList items
  | .tuple items => textCountList items
  | .none => 0
  | .bool _ => 0
  | .int _ => 0
  | .float _ => 0

def textCountList : List ContextValue → ℕ
  | [] => 0
  | value :: rest => textCount value + textCountList rest

def textCountItems : List (String × ContextValue) → ℕ
  | [] => 0
  | (_, value) :: rest => textCount value + textCountItems rest

end

mutual

/-- How many closing fences the keys and the texts show together. -/
def shownFences : ContextValue → ℕ
  | .str text => closingFences text.toList
  | .dict items => shownFencesItems items
  | .list items => shownFencesList items
  | .tuple items => shownFencesList items
  | .none => 0
  | .bool _ => 0
  | .int _ => 0
  | .float _ => 0

def shownFencesList : List ContextValue → ℕ
  | [] => 0
  | value :: rest => shownFences value + shownFencesList rest

def shownFencesItems : List (String × ContextValue) → ℕ
  | [] => 0
  | (key, value) :: rest => closingFences key.toList + shownFences value + shownFencesItems rest

end

mutual

theorem shownFences_of_fenced (value : ContextValue) (h : Fenced value) :
    shownFences value = textCount value := by
  cases value with
  | str text => exact closingFences_of_fenced h
  | dict items => exact shownFencesItems_of_fenced items h
  | list items => exact shownFencesList_of_fenced items h
  | tuple items => exact shownFencesList_of_fenced items h
  | none | bool b | int n | float f => rfl

theorem shownFencesList_of_fenced (values : List ContextValue) (h : FencedList values) :
    shownFencesList values = textCountList values := by
  cases values with
  | nil => rfl
  | cons value rest =>
    rw [shownFencesList, textCountList, shownFences_of_fenced value h.1,
      shownFencesList_of_fenced rest h.2]

theorem shownFencesItems_of_fenced (items : List (String × ContextValue)) (h : FencedItems items) :
    shownFencesItems items = textCountItems items := by
  cases items with
  | nil => rfl
  | cons item rest =>
    rw [shownFencesItems, textCountItems, closingFences_of_noBracket h.1,
      shownFences_of_fenced item.2 h.2.1, shownFencesItems_of_fenced rest h.2.2, Nat.zero_add]

end

/-- A context is fenced, and shows one closing fence for each text, exactly when its keys have no bracket and
its tuples were fenced before. -/
theorem context_fenced_iff (context : List (String × ContextValue)) :
    (FencedItems (fenceContext context) ∧
      shownFencesItems (fenceContext context) = textCountItems (fenceContext context)) ↔
        HarmlessItems context := by
  rw [← fencedItems_fenceItems_iff]
  exact and_iff_left_of_imp fun h => shownFencesItems_of_fenced _ h

/-- A text in a tuple stays without a fence. -/
theorem tuple_not_fenced : ¬ (FencedItems (fenceContext [("rows", .tuple [.str "approve"])]) ∧
    shownFencesItems (fenceContext [("rows", .tuple [.str "approve"])]) =
      textCountItems (fenceContext [("rows", .tuple [.str "approve"])])) := by
  rintro ⟨hfenced, -⟩
  obtain ⟨-, htuple, -⟩ := (fencedItems_fenceItems_iff _).mp hfenced
  obtain ⟨⟨inner, hinner, -⟩, -⟩ := htuple
  have htext : "approve".toList = openingFence ++ inner ++ closingFence := by
    rw [hinner, between, String.toList_ofList]
  have hfirst : "approve".toList.head? = some 'a' := by decide +kernel
  rw [htext] at hfirst
  exact absurd (Option.some.inj hfirst) (by decide)

end ShelfWise.Security
