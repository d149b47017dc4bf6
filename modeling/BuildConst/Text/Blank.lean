/-!
# Blank characters and trimming

A character is *blank* when it has the Unicode property `White_Space`.  Trimming a text removes
its blank characters at both ends and leaves the inner ones alone.

## Main definitions

* `Text.isBlank` — the property of a character.
* `Text.trimChars`, `Text.trim` — a text without the blanks at its ends.
* `Text.allBlank` — a text that trims to nothing.

## Main results

* `Text.trimChars_append` — what trimming leaves of a text.
-/

set_option relaxedAutoImplicit false
set_option autoImplicit false

namespace BuildConst.Text

/-- The characters with the Unicode property `White_Space`.  The separators U+001C to U+001F, the
zero-width space U+200B and the byte order mark U+FEFF do not have it. -/
def isBlank (c : Char) : Bool :=
  let n := c.toNat
  (9 ≤ n && n ≤ 13) || n == 0x20 || n == 0x85 || n == 0xA0 || n == 0x1680 ||
    (0x2000 ≤ n && n ≤ 0x200A) || n == 0x2028 || n == 0x2029 || n == 0x202F || n == 0x205F ||
    n == 0x3000

/-- No character of ASCII behind the space is blank. -/
theorem isBlank_eq_false {c : Char} (h : 0x20 < c.toNat) (h' : c.toNat < 0x80) :
    isBlank c = false := by
  simp only [isBlank, Bool.or_eq_false_iff, Bool.and_eq_false_iff, decide_eq_false_iff_not,
    beq_eq_false_iff_ne]
  omega

/-- A list of characters without the blank ones at its ends. -/
def trimChars (cs : List Char) : List Char :=
  ((cs.dropWhile isBlank).reverse.dropWhile isBlank).reverse

/-- A text without the blank characters at its ends. -/
def trim (s : String) : String :=
  String.ofList (trimChars s.toList)

/-- A text that holds nothing but blank characters. -/
def allBlank (s : String) : Bool :=
  s.toList.all isBlank

/-- Nothing is dropped from characters that are not blank. -/
theorem dropWhile_isBlank {cs : List Char} (h : ∀ c ∈ cs, isBlank c = false) :
    cs.dropWhile isBlank = cs := by
  cases cs with
  | nil => rfl
  | cons c cs => exact List.dropWhile_cons_of_neg (by simp [h c List.mem_cons_self])

/-- Trimming takes away the blank characters around a text that holds none itself. -/
theorem trimChars_append {before word after : List Char} (hbefore : ∀ c ∈ before, isBlank c = true)
    (hword : ∀ c ∈ word, isBlank c = false) (hafter : ∀ c ∈ after, isBlank c = true) :
    trimChars (before ++ (word ++ after)) = word := by
  have hfront : (word ++ after).dropWhile isBlank = word ++ after ∨ word = [] := by
    cases word with
    | nil => exact .inr rfl
    | cons c word =>
      exact .inl (List.dropWhile_cons_of_neg (by simp [hword c List.mem_cons_self]))
  rw [trimChars, List.dropWhile_append_of_pos hbefore]
  rcases hfront with hfront | rfl
  · have hback : ∀ c ∈ after.reverse, isBlank c = true := fun c hc =>
      hafter c (List.mem_reverse.1 hc)
    have hkept : ∀ c ∈ word.reverse, isBlank c = false := fun c hc =>
      hword c (List.mem_reverse.1 hc)
    rw [hfront, List.reverse_append, List.dropWhile_append_of_pos hback, dropWhile_isBlank hkept,
      List.reverse_reverse]
  · have hnone : (after ++ []).dropWhile isBlank = [] := List.dropWhile_append_of_pos hafter
    rw [List.append_nil] at hnone
    rw [List.nil_append, hnone]
    rfl

/-- A text without blank characters is trimmed to itself. -/
theorem trim_eq_self {s : String} (h : ∀ c ∈ s.toList, isBlank c = false) : trim s = s := by
  have hchars : trimChars ([] ++ (s.toList ++ [])) = s.toList := trimChars_append nofun h nofun
  rw [List.nil_append, List.append_nil] at hchars
  rw [trim, hchars, String.ofList_toList]

end BuildConst.Text
