import BuildConst.Proofs.Json.Numbers
import BuildConst.Proofs.Success

/-!
# Numerals end where no sign of theirs follows

A numeral has no closing sign: it goes on as long as there are digits, a point or an exponent.  What
is read as a numeral is nevertheless determined by its own characters.  What follows them may be
exchanged for any text that begins with the same character, or with one at which numerals stop.

## Main definitions

* `Json.Replaces` — a text that may stand in the place of another one behind a numeral.
* `Json.Confined` — what is read from a text depends on the characters that were taken.

## Main results

* `Json.confined_readNumeral` — numerals of any form are read from their own characters.
-/

set_option relaxedAutoImplicit false
set_option autoImplicit false

namespace BuildConst.Json

/-! ## What follows a numeral -/

/-- A text that may stand in the place of another one behind a numeral: it begins with the same
character, or the numeral stops there. -/
def Replaces (rest' rest : List Char) : Prop :=
  rest'.head? = rest.head? ∨ Stops rest'

variable {rest rest' : List Char}

/-- Behind the same characters the exchange is not noticed. -/
theorem Replaces.append (h : Replaces rest' rest) (text : List Char) :
    Replaces (text ++ rest') (text ++ rest) := by
  cases text with
  | nil => exact h
  | cons c text => exact .inl rfl

/-- Where no digit stands there is none after the exchange. -/
theorem Replaces.startsWithDigit (h : Replaces rest' rest) (hrest : startsWithDigit rest = false) :
    startsWithDigit rest' = false := by
  rcases h with hhead | hstops
  · rw [Json.startsWithDigit, hhead]
    exact hrest
  · cases rest' with
    | nil => rfl
    | cons c rest' => exact (hstops c rfl).1

/-- Where the numeral does not go on, it does not go on after the exchange. -/
theorem Replaces.notMem {signs : List Char} (h : Replaces rest' rest)
    (hsigns : signs ⊆ ['.', 'e', 'E']) (hrest : ∀ c ∈ rest.head?, c ∉ signs) :
    ∀ c ∈ rest'.head?, c ∉ signs := by
  rcases h with hhead | hstops
  · rw [hhead]
    exact hrest
  · exact fun c hc hmem => (hstops c hc).2 (hsigns hmem)

/-! ## Digits -/

/-- Nothing is gathered after the exchange if nothing was gathered before. -/
theorem gather_of_replaces {limit n : Nat} (h : Replaces rest' rest)
    (hrest : gather limit n rest = (n, 0, rest)) : gather limit n rest' = (n, 0, rest') := by
  cases rest' with
  | nil => rfl
  | cons c rest' =>
    rw [gather, if_neg]
    rintro ⟨hdigit, hlimit⟩
    rcases h with hhead | hstops
    · obtain ⟨_, rfl⟩ := List.head?_eq_some_iff.1 hhead.symm
      rw [gather, if_pos ⟨hdigit, hlimit⟩] at hrest
      exact Nat.succ_ne_zero _ (congrArg (·.2.1) hrest)
    · rw [(hstops c rfl).1] at hdigit
      cases hdigit

/-- Digits are gathered from their own characters. -/
theorem exists_gather {limit n m count : Nat} {cs left : List Char}
    (h : gather limit n cs = (m, count, left)) :
    ∃ taken, cs = taken ++ left ∧
      ∀ left', Replaces left' left → gather limit n (taken ++ left') = (m, count, left') := by
  induction cs generalizing n m count with
  | nil =>
    cases h
    exact ⟨[], rfl, fun left' hleft => gather_of_replaces hleft rfl⟩
  | cons c cs ih =>
    rw [gather] at h
    by_cases hmore : c.isDigit ∧ 10 * n + (c.toNat - '0'.toNat) ≤ limit
    · rw [if_pos hmore] at h
      generalize hread : gather limit (10 * n + (c.toNat - '0'.toNat)) cs = read at h
      obtain ⟨k, others, left⟩ := read
      cases h
      obtain ⟨taken, rfl, htaken⟩ := ih hread
      refine ⟨c :: taken, rfl, fun left' hleft => ?_⟩
      rw [List.cons_append, gather, if_pos hmore, htaken left' hleft]
    · rw [if_neg hmore] at h
      cases h
      refine ⟨[], rfl, fun left' hleft => gather_of_replaces hleft ?_⟩
      rw [gather, if_neg hmore]

/-- The digits in front of a text without digits are all that is taken. -/
theorem takeWhile_isDigit_append {digits : List Char} (h : ∀ c ∈ digits, c.isDigit = true)
    (hrest : startsWithDigit rest = false) :
    (digits ++ rest).takeWhile Char.isDigit = digits ∧
      (digits ++ rest).dropWhile Char.isDigit = rest := by
  have hnone : rest.takeWhile Char.isDigit = [] ∧ rest.dropWhile Char.isDigit = rest := by
    cases rest with
    | nil => exact ⟨rfl, rfl⟩
    | cons c rest =>
      have hc : c.isDigit = false := hrest
      simp [hc]
  rw [List.takeWhile_append_of_pos h, List.dropWhile_append_of_pos h, hnone.1, hnone.2,
    List.append_nil]
  exact ⟨rfl, rfl⟩

/-- No digit stands behind the digits that a text begins with. -/
theorem startsWithDigit_dropWhile (cs : List Char) :
    startsWithDigit (cs.dropWhile Char.isDigit) = false := by
  induction cs with
  | nil => rfl
  | cons c cs ih =>
    rw [List.dropWhile_cons]
    split
    · exact ih
    next hc => exact Bool.not_eq_true _ ▸ hc

/-! ## Readers that are confined to what they take -/

/-- What is read from a text depends on the characters that were taken, and on nothing else but
where they end.  No digit is left behind them. -/
def Confined {α : Type} (reader : List Char → Except Fault (α × List Char)) (cs : List Char) :
    Prop :=
  ∀ a rest, reader cs = .ok (a, rest) → startsWithDigit rest = false ∧
    ∃ text, cs = text ++ rest ∧
      ∀ rest', Replaces rest' rest → reader (text ++ rest') = .ok (a, rest')

section Confined

variable {α : Type} {reader inner : List Char → Except Fault (α × List Char)} {cs : List Char}

/-- A character may be taken first. -/
theorem Confined.cons {c : Char} (h : Confined inner cs)
    (heq : ∀ tail, Replaces tail cs → reader (c :: tail) = inner tail) :
    Confined reader (c :: cs) := by
  intro a rest hread
  rw [heq cs (.inl rfl)] at hread
  obtain ⟨hrest, text, rfl, htext⟩ := h a rest hread
  refine ⟨hrest, c :: text, rfl, fun rest' hrest' => ?_⟩
  rw [List.cons_append, heq _ (hrest'.append text), htext rest' hrest']

/-- Where a digit stands, only texts that begin with it matter. -/
theorem Confined.of_isDigit {c : Char} (h : Confined inner (c :: cs)) (hc : c.isDigit = true)
    (heq : ∀ tail, reader (c :: tail) = inner (c :: tail)) : Confined reader (c :: cs) := by
  intro a rest hread
  rw [heq] at hread
  obtain ⟨hrest, text, hcs, htext⟩ := h a rest hread
  refine ⟨hrest, text, hcs, fun rest' hrest' => ?_⟩
  -- The digit is not left behind, so it is taken.
  cases text with
  | nil =>
    rw [List.nil_append] at hcs
    rw [← hcs, startsWithDigit, List.head?_cons, Option.any_some, hc] at hrest
    cases hrest
  | cons d text =>
    obtain ⟨rfl, rfl⟩ := List.cons.inj hcs
    rw [List.cons_append, heq]
    exact htext rest' hrest'

/-- Digits may be gathered first. -/
theorem Confined.gather {limit n : Nat}
    (next : Nat → Nat → List Char → Except Fault (α × List Char))
    (h : ∀ m count left, Confined (next m count) left)
    (heq : ∀ tail, reader tail =
      next (Json.gather limit n tail).1 (Json.gather limit n tail).2.1
        (Json.gather limit n tail).2.2) : Confined reader cs := by
  intro a rest hread
  rw [heq] at hread
  generalize hgather : Json.gather limit n cs = gathered at hread
  obtain ⟨m, count, left⟩ := gathered
  obtain ⟨taken, rfl, htaken⟩ := exists_gather hgather
  obtain ⟨hrest, text, rfl, htext⟩ := h m count left a rest hread
  refine ⟨hrest, taken ++ text, (List.append_assoc ..).symm, fun rest' hrest' => ?_⟩
  rw [List.append_assoc, heq, htaken _ (hrest'.append text)]
  exact htext rest' hrest'

/-- Digits may be skipped first. -/
theorem Confined.digits (next : Nat → List Char → Except Fault (α × List Char))
    (h : ∀ count left, startsWithDigit left = false → Confined (next count) left)
    (heq : ∀ tail, reader tail =
      next (tail.takeWhile Char.isDigit).length (tail.dropWhile Char.isDigit)) :
    Confined reader cs := by
  intro a rest hread
  have hnone := startsWithDigit_dropWhile cs
  rw [heq] at hread
  obtain ⟨hrest, text, hdrop, htext⟩ := h _ _ hnone a rest hread
  have hdigits : ∀ c ∈ cs.takeWhile Char.isDigit, c.isDigit = true :=
    List.all_eq_true.1 List.all_takeWhile
  rw [hdrop] at hnone
  refine ⟨hrest, cs.takeWhile Char.isDigit ++ text, ?_, fun rest' hrest' => ?_⟩
  · rw [List.append_assoc, ← hdrop, List.takeWhile_append_dropWhile]
  · obtain ⟨htake, hskip⟩ :=
      takeWhile_isDigit_append hdigits ((hrest'.append text).startsWithDigit hnone)
    rw [List.append_assoc, heq, htake, hskip, htext rest' hrest']

/-- A number may be given without taking a character. -/
theorem Confined.of_forall (hcs : startsWithDigit cs = false)
    (h : ∀ a rest, reader cs = .ok (a, rest) → rest = cs ∧
      ∀ rest', Replaces rest' cs → reader rest' = .ok (a, rest')) : Confined reader cs := by
  intro a rest hread
  obtain ⟨rfl, hall⟩ := h a rest hread
  exact ⟨hcs, [], rfl, hall⟩

/-- Nothing is claimed where nothing is read. -/
theorem Confined.of_error {fault : Fault} (h : reader cs = .error fault) : Confined reader cs := by
  intro a rest hread
  rw [h] at hread
  cases hread

end Confined

/-! ## Exponents -/

section Numerals

variable (negative : Bool) (significand : Nat) (exponent : Int) {cs : List Char}

/-- A scaled number leaves what follows it. -/
theorem scaled_eq_ok {n : Number} (h : scaled negative significand exponent cs = .ok (n, rest)) :
    rest = cs ∧ ∀ rest', scaled negative significand exponent rest' = .ok (n, rest') := by
  unfold scaled at h ⊢
  split at h
  next => 
    cases h
    exact ⟨rfl, fun _ => rfl⟩
  next => cases h

/-- The number of a numeral when as many digits of its exponent were gathered as fit. -/
def finishExponent (down : Bool) (n : Nat) (rest : List Char) : Except Fault (Number × List Char) :=
  if startsWithDigit rest then
    if significand ≠ 0 ∧ !down then .error (.inside .numberOutOfRange rest)
    else .ok (.binary negative .zero, rest.dropWhile Char.isDigit)
  else scaled negative significand (if down then exponent - n else exponent + n) rest

/-- Zero is given behind all digits. -/
theorem confined_skipDigits (n : Number) :
    Confined (fun tail => .ok (n, tail.dropWhile Char.isDigit)) cs := by
  refine .digits (fun _ tail => .ok (n, tail)) (fun _ left hleft => ?_) fun _ => rfl
  refine .of_forall hleft fun m rest h => ?_
  cases h
  exact ⟨rfl, fun _ _ => rfl⟩

/-- An exponent is finished by its own digits. -/
theorem confined_finishExponent (down : Bool) (n : Nat) :
    Confined (finishExponent negative significand exponent down n) cs := by
  cases hcs : startsWithDigit cs with
  | false =>
    have hscaled {tail : List Char} (h : startsWithDigit tail = false) :
        finishExponent negative significand exponent down n tail =
          scaled negative significand (if down then exponent - n else exponent + n) tail := by
      simp only [finishExponent, h, Bool.false_eq_true, if_false]
    refine .of_forall hcs fun m rest h => ?_
    rw [hscaled hcs] at h
    obtain ⟨hrest, hall⟩ := scaled_eq_ok _ _ _ h
    exact ⟨hrest, fun rest' hrest' => (hscaled (hrest'.startsWithDigit hcs)).trans (hall rest')⟩
  | true =>
    cases cs with
    | nil => cases hcs
    | cons c cs =>
      have hc (tail : List Char) : startsWithDigit (c :: tail) = true := hcs
      by_cases hlarge : significand ≠ 0 ∧ !down
      · refine @Confined.of_error _ _ _ (.inside .numberOutOfRange (c :: cs)) ?_
        rw [finishExponent, if_pos (hc cs), if_pos hlarge]
      · refine (confined_skipDigits (.binary negative .zero)).of_isDigit hcs fun tail => ?_
        rw [finishExponent, if_pos (hc tail), if_neg hlarge]

/-- The number of a numeral whose exponent digits are next. -/
def readExponentDigits (down : Bool) (digits : List Char) : Except Fault (Number × List Char) :=
  match digits with
  | [] => .error (.before .endInValue [])
  | c :: _ =>
    if c.isDigit then
      let (n, _, rest) := gather greatestWrittenExponent 0 digits
      finishExponent negative significand exponent down n rest
    else .error (.inside .invalidNumber digits)

/-- The digits of an exponent are read from their own characters. -/
theorem confined_readExponentDigits (down : Bool) :
    Confined (readExponentDigits negative significand exponent down) cs := by
  have hgather : Confined (fun tail => finishExponent negative significand exponent down
      (gather greatestWrittenExponent 0 tail).1 (gather greatestWrittenExponent 0 tail).2.2) cs :=
    .gather (fun n _ => finishExponent negative significand exponent down n)
      (fun n _ _ => confined_finishExponent negative significand exponent down n) fun _ => rfl
  cases cs with
  | nil => exact .of_error rfl
  | cons c cs =>
    by_cases hc : c.isDigit = true
    · exact hgather.of_isDigit hc fun tail => by rw [readExponentDigits, if_pos hc]
    · exact .of_error (by rw [readExponentDigits, if_neg hc])

/-- An exponent without a sign is that of its digits. -/
theorem readExponent_of_ne {c : Char} (hplus : c ≠ '+') (hminus : c ≠ '-') (tail : List Char) :
    readExponent negative significand exponent (c :: tail) =
      readExponentDigits negative significand exponent false (c :: tail) := by
  unfold readExponent
  split
  next down digits hsign =>
    split at hsign
    next heq => exact absurd (List.cons.inj heq).1 hplus
    next heq => exact absurd (List.cons.inj heq).1 hminus
    next =>
      cases hsign
      rfl

/-- An exponent is read from its own characters. -/
theorem confined_readExponent : Confined (readExponent negative significand exponent) cs := by
  have hdigits (down : Bool) (cs : List Char) :
      Confined (readExponentDigits negative significand exponent down) cs :=
    confined_readExponentDigits negative significand exponent down
  cases cs with
  | nil => exact .of_error rfl
  | cons c cs =>
    by_cases hplus : c = '+'
    · subst hplus
      exact (hdigits false cs).cons fun _ _ => rfl
    by_cases hminus : c = '-'
    · subst hminus
      exact (hdigits true cs).cons fun _ _ => rfl
    have hsame := readExponent_of_ne negative significand exponent hplus hminus
    by_cases hc : c.isDigit = true
    · exact (hdigits false (c :: cs)).of_isDigit hc hsame
    · exact .of_error ((hsame cs).trans (by rw [readExponentDigits, if_neg hc]))

/-! ## Fractions and whole numerals -/

/-- The number of a numeral whose digits after the point were read. -/
def finishFraction (rest : List Char) : Except Fault (Number × List Char) :=
  match rest with
  | 'e' :: after | 'E' :: after => readExponent negative significand exponent after
  | _ => scaled negative significand exponent rest

/-- What comes after the digits of a fraction is read from its own characters. -/
theorem confined_finishFraction (hcs : startsWithDigit cs = false) :
    Confined (finishFraction negative significand exponent) cs := by
  have hscaled {tail : List Char} (h : ∀ c ∈ tail.head?, c ∉ ['e', 'E']) :
      finishFraction negative significand exponent tail =
        scaled negative significand exponent tail := by
    unfold finishFraction
    split
    next => exact absurd (h 'e' rfl) (by decide)
    next => exact absurd (h 'E' rfl) (by decide)
    next => rfl
  by_cases hends : ∀ c ∈ cs.head?, c ∉ ['e', 'E']
  · refine .of_forall hcs fun m rest h => ?_
    rw [hscaled hends] at h
    obtain ⟨hrest, hall⟩ := scaled_eq_ok _ _ _ h
    exact ⟨hrest, fun rest' hrest' =>
      (hscaled (hrest'.notMem (by decide) hends)).trans (hall rest')⟩
  · cases cs with
    | nil => exact absurd nofun hends
    | cons c cs =>
      have hsign : c = 'e' ∨ c = 'E' := by simpa [or_iff_not_imp_left] using hends
      rcases hsign with rfl | rfl
      · exact (confined_readExponent negative significand exponent).cons fun _ _ => rfl
      · exact (confined_readExponent negative significand exponent).cons fun _ _ => rfl

/-- A fraction is read from its own characters. -/
theorem confined_readFraction : Confined (readFraction negative significand exponent) cs := by
  have hgather : Confined (fun tail => finishFraction negative
      (gather greatestSignificand significand tail).1
      (exponent - (gather greatestSignificand significand tail).2.1)
      ((gather greatestSignificand significand tail).2.2.dropWhile Char.isDigit)) cs := by
    refine .gather (fun n count left => finishFraction negative n (exponent - count)
      (left.dropWhile Char.isDigit)) (fun n count _ => ?_) fun _ => rfl
    refine .digits (fun _ => finishFraction negative n (exponent - count))
      (fun _ _ hleft => ?_) fun _ => rfl
    exact confined_finishFraction negative n (exponent - count) hleft
  cases cs with
  | nil => exact .of_error rfl
  | cons c cs =>
    by_cases hc : c.isDigit = true
    · refine hgather.of_isDigit hc fun tail => ?_
      have hstart : startsWithDigit (c :: tail) = true := hc
      unfold readFraction
      rw [if_pos hstart]
      rfl
    · have hstart : ¬startsWithDigit (c :: cs) = true := hc
      refine @Confined.of_error _ _ _ (.inside .invalidNumber (c :: cs)) ?_
      unfold readFraction
      rw [if_neg hstart]

/-- The number of a numeral whose digits before the point were read, the last ones of them
uncounted. -/
def finishWhole (extra : Nat) (rest : List Char) : Except Fault (Number × List Char) :=
  match rest with
  | '.' :: after => readFraction negative significand extra after
  | 'e' :: after | 'E' :: after => readExponent negative significand extra after
  | other =>
    if extra = 0 then .ok (wholeNumber negative significand, other)
    else scaled negative significand extra other

/-- What comes after the digits before the point is read from its own characters. -/
theorem confined_finishWhole (extra : Nat) (hcs : startsWithDigit cs = false) :
    Confined (finishWhole negative significand extra) cs := by
  have hends {tail : List Char} (h : ∀ c ∈ tail.head?, c ∉ ['.', 'e', 'E']) :
      finishWhole negative significand extra tail =
        if extra = 0 then .ok (wholeNumber negative significand, tail)
        else scaled negative significand extra tail := by
    unfold finishWhole
    split
    next => exact absurd (h '.' rfl) (by decide)
    next => exact absurd (h 'e' rfl) (by decide)
    next => exact absurd (h 'E' rfl) (by decide)
    next => rfl
  by_cases hstops : ∀ c ∈ cs.head?, c ∉ ['.', 'e', 'E']
  · refine .of_forall hcs fun m rest h => ?_
    have hreplaced (rest' : List Char) (hrest' : Replaces rest' cs) :=
      hends (hrest'.notMem (by decide) hstops)
    rw [hends hstops] at h
    by_cases hextra : extra = 0
    · rw [if_pos hextra] at h
      cases h
      exact ⟨rfl, fun rest' hrest' => by rw [hreplaced rest' hrest', if_pos hextra]⟩
    · rw [if_neg hextra] at h
      obtain ⟨hrest, hall⟩ := scaled_eq_ok _ _ _ h
      exact ⟨hrest, fun rest' hrest' => by rw [hreplaced rest' hrest', if_neg hextra, hall]⟩
  · cases cs with
    | nil => exact absurd nofun hstops
    | cons c cs =>
      have hsign : c = '.' ∨ c = 'e' ∨ c = 'E' := by simpa [or_iff_not_imp_left] using hstops
      rcases hsign with rfl | rfl | rfl
      · exact (confined_readFraction negative significand extra).cons fun _ _ => rfl
      · exact (confined_readExponent negative significand extra).cons fun _ _ => rfl
      · exact (confined_readExponent negative significand extra).cons fun _ _ => rfl

/-- The rest of a numeral is read from its own characters. -/
theorem confined_readRest : Confined (readRest negative significand) cs := by
  refine .digits (finishWhole negative significand)
    (fun extra _ hleft => confined_finishWhole negative significand extra hleft) fun tail => ?_
  unfold readRest finishWhole
  rfl

/-- **Numerals of any form are read from their own characters.** -/
theorem confined_readNumeral : Confined (readNumeral negative) cs := by
  cases cs with
  | nil => exact .of_error rfl
  | cons c cs =>
    by_cases hzero : c = '0'
    · subst hzero
      cases hcs : startsWithDigit cs with
      | true => exact .of_error (by rw [readNumeral, if_pos hcs])
      | false =>
        refine (confined_readRest negative 0).cons fun tail htail => ?_
        rw [readNumeral, htail.startsWithDigit hcs]
        rfl
    by_cases hc : c.isDigit = true
    · have hgather : Confined (fun tail => readRest negative (gather greatestSignificand 0 tail).1
          (gather greatestSignificand 0 tail).2.2) (c :: cs) :=
        .gather (fun n _ => readRest negative n) (fun n _ _ => confined_readRest negative n)
          fun _ => rfl
      refine hgather.of_isDigit hc fun tail => ?_
      rw [readNumeral]
      · exact if_pos hc
      · exact hzero
    · refine @Confined.of_error _ _ _ (.inside .invalidNumber (c :: cs)) ?_
      rw [readNumeral]
      · exact if_neg hc
      · exact hzero

end Numerals

end BuildConst.Json
