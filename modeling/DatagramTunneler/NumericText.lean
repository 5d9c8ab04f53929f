import DatagramTunneler.CommandArguments
import DatagramTunneler.Configuration.Tunnels

/-! Which texts are read as numbers. The library conversions skip white space, take a
sign and stop behind the digits; what the callers check on top of that differs. -/

set_option autoImplicit false

namespace DatagramTunneler

/-- The number a text begins with, behind white space and a sign: whether it is
negative, and its digits. -/
def leadingNumber (value : Text) : Bool × Text :=
  let unsigned := (c_str value).dropWhile isspace
  let negative := unsigned.head? == some (byteOf '-')
  let signed := negative || unsigned.head? == some (byteOf '+')
  (negative, (if signed then unsigned.tail else unsigned).takeWhile isdigit)

/-- A text that is a number from 1 to `largest` and nothing else. -/
def IsNumber (largest : Nat) (value : Text) (number : Nat) : Prop :=
  value ≠ [] ∧ (∀ byte ∈ value, isdigit byte = true) ∧ digitsValue value = number ∧
    0 < number ∧ number ≤ largest

private theorem stoul_eq (value : Text) : stoul value =
    if (leadingNumber value).2.isEmpty then .error (ascii "stoul")
    else if unsignedLongBound ≤ digitsValue (leadingNumber value).2 then .error (ascii "stoul")
    else if (leadingNumber value).1 then
      .ok ((unsignedLongBound - digitsValue (leadingNumber value).2) % unsignedLongBound)
    else .ok (digitsValue (leadingNumber value).2) := rfl

private theorem leadingNumber_of_isdigit {value : Text} (nonempty : value ≠ [])
    (decimal : ∀ byte ∈ value, isdigit byte = true) : leadingNumber value = (false, value) := by
  obtain ⟨visible, minus, plus, taken⟩ := digits_undisturbed nonempty decimal
  unfold leadingNumber
  simp only [visible, minus, plus, taken, Bool.or_false, Bool.false_eq_true, if_false]

/-! ## Ports -/

/-- The text is digits, or it does not begin with a number that is taken for a port:
one up to 65535, or a negative one that wraps around to that. -/
def PlainPort (value : Text) : Prop :=
  (∀ byte ∈ value, isdigit byte = true) ∨ (leadingNumber value).2 = [] ∨
    if (leadingNumber value).1 then
      digitsValue (leadingNumber value).2 < unsignedLongBound - 65535 ∨
        unsignedLongBound ≤ digitsValue (leadingNumber value).2
    else digitsValue (leadingNumber value).2 = 0 ∨ 65535 < digitsValue (leadingNumber value).2

private theorem stoul_rejected_iff (value : Text) :
    (∀ number, stoul value = .ok number → number = 0 ∨ 65535 < number) ↔
      (leadingNumber value).2 = [] ∨ if (leadingNumber value).1 then
        digitsValue (leadingNumber value).2 < unsignedLongBound - 65535 ∨
          unsignedLongBound ≤ digitsValue (leadingNumber value).2
        else digitsValue (leadingNumber value).2 = 0 ∨ 65535 < digitsValue (leadingNumber value).2 := by
  rw [stoul_eq]
  generalize (leadingNumber value).1 = negative
  generalize (leadingNumber value).2 = digits
  generalize magnitude : digitsValue digits = number
  cases digits with
  | nil => simp
  | cons first rest =>
      simp only [List.isEmpty_cons, Bool.false_eq_true, if_false, reduceCtorEq, false_or]
      by_cases large : unsignedLongBound ≤ number
      · have bound : 65535 < unsignedLongBound := by decide
        rw [if_pos large]
        cases negative with
        | true => simp [large]
        | false =>
            simp only [reduceCtorEq, false_implies, implies_true, Bool.false_eq_true, if_false, true_iff]
            exact .inr (by omega)
      · rw [if_neg large]
        cases negative with
        | false => simp
        | true =>
            have bound : unsignedLongBound = 18446744073709551616 := rfl
            simp only [if_true, Except.ok.injEq, forall_eq']
            rw [bound] at large ⊢
            by_cases zero : number = 0
            · rw [zero]
              decide
            · rw [Nat.mod_eq_of_lt (by omega)]
              omega

private theorem parsePort_digits {value field_name : Text} {port : UInt16}
    (decimal : ∀ byte ∈ value, isdigit byte = true) :
    parsePort value field_name = .ok port ↔ IsNumber 65535 value port.toNat := by
  rw [parsePort_eq_ok]
  constructor
  · intro held
    obtain ⟨number, read, nonzero, small, rfl⟩ := held
    have nonempty : value ≠ [] := by
      intro same
      subst same
      cases read
    have exact_ := digitsValue_of_stoul nonempty decimal read
    have same : (UInt16.ofNat number).toNat = number := by
      rw [UInt16.toNat_ofNat']
      exact Nat.mod_eq_of_lt (by omega)
    rw [same]
    exact ⟨nonempty, decimal, exact_, Nat.pos_of_ne_zero nonzero, small⟩
  · intro held
    obtain ⟨nonempty, -, exact_, positive, small⟩ := held
    have bound : digitsValue value < unsignedLongBound := by
      have large : 65535 < unsignedLongBound := by decide
      omega
    refine ⟨port.toNat, ?_, by omega, small, UInt16.ofNat_toNat⟩
    rw [stoul_of_isdigit nonempty decimal bound, exact_]

/-- `parsePort` reads exactly the ports among the plain texts. -/
theorem parsePort_exact_iff (value field_name : Text) :
    (∀ port : UInt16, parsePort value field_name = .ok port ↔ IsNumber 65535 value port.toNat) ↔
      PlainPort value := by
  by_cases decimal : ∀ byte ∈ value, isdigit byte = true
  · exact iff_of_true (fun port => parsePort_digits decimal) (.inl decimal)
  · unfold PlainPort
    rw [or_iff_right decimal, ← stoul_rejected_iff]
    constructor
    · intro exact_ number read
      by_contra inside
      have accepted : parsePort value field_name = .ok (UInt16.ofNat number) :=
        parsePort_eq_ok.mpr ⟨number, read, by omega, by omega, rfl⟩
      exact decimal ((exact_ _).mp accepted).2.1
    · intro rejected port
      refine iff_of_false ?_ fun number => decimal number.2.1
      intro accepted
      obtain ⟨number, read, nonzero, small, -⟩ := parsePort_eq_ok.mp accepted
      have outside := rejected number read
      omega

/-! ## Endpoints -/

/-- An endpoint with a valid address has a plain port behind its last colon. -/
def PlainEndpoint (value : Text) : Prop :=
  ∀ address text, value = address ++ byteOf ':' :: text → byteOf ':' ∉ text →
    isIpv4Address address = true → PlainPort text

theorem IsNumber.colon_not_mem {largest number : Nat} {digits : Text} (number_ : IsNumber largest digits number) :
    byteOf ':' ∉ digits := fun inside => (isdigit_apart (number_.2.1 _ inside)).2.2.2.1 rfl

private theorem parseEndpoint_exact_iff (value field_name : Text) :
    (∀ address, ∀ port : UInt16, parseEndpoint value field_name = .ok (address, port) ↔
      ∃ digits, value = address ++ byteOf ':' :: digits ∧ isIpv4Address address = true ∧
        IsNumber 65535 digits port.toNat) ↔ PlainEndpoint value := by
  constructor
  · intro exact_ address text layout clean valid
    rw [← parsePort_exact_iff text field_name]
    intro port
    have accepted : parsePort text field_name = .ok port ↔
        parseEndpoint value field_name = .ok (address, port) := by
      rw [parseEndpoint_eq_ok]
      constructor
      · exact fun parsed => ⟨text, layout, clean, valid, parsed⟩
      · intro held
        obtain ⟨digits, other, -, -, parsed⟩ := held
        cases (List.cons.inj (List.append_cancel_left (layout.symm.trans other))).2
        exact parsed
    rw [accepted, exact_]
    constructor
    · intro held
      obtain ⟨digits, other, -, number⟩ := held
      cases (List.cons.inj (List.append_cancel_left (layout.symm.trans other))).2
      exact number
    · exact fun number => ⟨text, layout, valid, number⟩
  · intro plain address port
    rw [parseEndpoint_eq_ok]
    constructor
    · intro held
      obtain ⟨digits, layout, clean, valid, parsed⟩ := held
      exact ⟨digits, layout, valid,
        ((parsePort_exact_iff digits field_name).mpr (plain _ _ layout clean valid) port).mp parsed⟩
    · intro held
      obtain ⟨digits, layout, valid, number⟩ := held
      exact ⟨digits, layout, number.colon_not_mem, valid, (parsePort_digits number.2.1).mpr number⟩

/-! ## Sizes -/

/-- A number between 1 and the largest, with white space or a sign in front of it. -/
def WholeNumber (value : Text) : Prop :=
  ∃ spaces sign digits, value = spaces ++ sign ++ digits ∧ (∀ byte ∈ spaces, isspace byte = true) ∧
    sign ∈ [[], ascii "-", ascii "+"] ∧ digits ≠ [] ∧ (∀ byte ∈ digits, isdigit byte = true) ∧
    0 < digitsValue digits ∧ digitsValue digits < unsignedLongBound

/-- The text is digits, or no number with white space or a sign in front of it. -/
def PlainSize (value : Text) : Prop :=
  (∀ byte ∈ value, isdigit byte = true) ∨ ¬ WholeNumber value

private theorem stoull_eq (value : Text) : stoull value =
    let unsigned := (c_str value).dropWhile isspace
    let signed := unsigned.head? == some (byteOf '-') || unsigned.head? == some (byteOf '+')
    let parsed_length := (c_str value).length - unsigned.length + (if signed then 1 else 0) +
      (leadingNumber value).2.length
    if (leadingNumber value).2.isEmpty then .error (ascii "stoull")
    else if unsignedLongBound ≤ digitsValue (leadingNumber value).2 then .error (ascii "stoull")
    else if (leadingNumber value).1 then
      .ok ((unsignedLongBound - digitsValue (leadingNumber value).2) % unsignedLongBound, parsed_length)
    else .ok (digitsValue (leadingNumber value).2, parsed_length) := rfl

private theorem sign_layout (unsigned : Text) : ∃ sign rest, unsigned = sign ++ rest ∧
    sign ∈ [[], ascii "-", ascii "+"] ∧
    let signed := unsigned.head? == some (byteOf '-') || unsigned.head? == some (byteOf '+')
    (if signed then unsigned.tail else unsigned) = rest ∧ (if signed then 1 else 0) = sign.length := by
  cases unsigned with
  | nil => exact ⟨[], [], rfl, by simp, rfl, rfl⟩
  | cons byte rest =>
      by_cases minus : byte = byteOf '-'
      · rw [minus]
        exact ⟨ascii "-", rest, rfl, by simp, rfl, rfl⟩
      · by_cases plus : byte = byteOf '+'
        · rw [plus]
          exact ⟨ascii "+", rest, rfl, by simp, rfl, rfl⟩
        · exact ⟨[], byte :: rest, rfl, by simp, by simp [minus, plus], by simp [minus, plus]⟩

private theorem wholeNumber_of_accepted {value option : Text} {number : Nat}
    (accepted : parsePositiveSize value option = .ok number) : WholeNumber value := by
  obtain ⟨sign, rest, layout, signs, behind, width⟩ := sign_layout ((c_str value).dropWhile isspace)
  have digits : (leadingNumber value).2 = rest.takeWhile isdigit := congrArg (List.takeWhile isdigit) behind
  unfold parsePositiveSize at accepted
  rw [stoull_eq] at accepted
  dsimp only at accepted width
  rw [width, digits] at accepted
  -- The digits end where the text ends.
  have ended : rest.takeWhile isdigit ≠ [] ∧ digitsValue (rest.takeWhile isdigit) < unsignedLongBound ∧
      0 < digitsValue (rest.takeWhile isdigit) ∧
      (c_str value).length - ((c_str value).dropWhile isspace).length + sign.length +
        (rest.takeWhile isdigit).length = value.length := by
    split_ifs at accepted with empty large negative
    · dsimp only at accepted
      split_ifs at accepted with refused
      simp only [not_or, not_not] at refused
      refine ⟨by simpa using empty, Nat.lt_of_not_le large, Nat.pos_of_ne_zero fun zero => ?_, refused.1⟩
      rw [zero] at refused
      exact refused.2.1 (by decide)
    · dsimp only at accepted
      split_ifs at accepted with refused
      simp only [not_or, not_not] at refused
      exact ⟨by simpa using empty, Nat.lt_of_not_le large, Nat.pos_of_ne_zero refused.2.1, refused.1⟩
  obtain ⟨nonempty, small, positive, total⟩ := ended
  have spaces := List.takeWhile_append_dropWhile (p := isspace) (l := c_str value)
  have tail := List.takeWhile_append_dropWhile (p := isdigit) (l := rest)
  have shown : (c_str value).length ≤ value.length := (List.takeWhile_prefix _).length_le
  have spacesLength := congrArg List.length spaces
  have tailLength := congrArg List.length tail
  have layoutLength := congrArg List.length layout
  simp only [List.length_append] at spacesLength tailLength layoutLength
  have same : (c_str value).length = value.length := by omega
  have whole : c_str value = value := (List.takeWhile_prefix _).eq_of_length same
  have noTail : rest.dropWhile isdigit = [] := List.eq_nil_of_length_eq_zero (by omega)
  rw [noTail, List.append_nil] at tail
  refine ⟨(c_str value).takeWhile isspace, sign, rest.takeWhile isdigit, ?_,
    fun _ => List.mem_takeWhile_imp, signs, nonempty, fun _ => List.mem_takeWhile_imp, positive, small⟩
  rw [tail, List.append_assoc, ← layout, spaces, whole]

private theorem signed_digits {sign digits : Text} (signs : sign ∈ [[], ascii "-", ascii "+"])
    (nonempty : digits ≠ [])
    (decimal : ∀ byte ∈ digits, isdigit byte = true) :
    let unsigned := sign ++ digits
    let signed := unsigned.head? == some (byteOf '-') || unsigned.head? == some (byteOf '+')
    (if signed then unsigned.tail else unsigned) = digits ∧ (if signed then 1 else 0) = sign.length := by
  simp only [List.mem_cons, List.not_mem_nil, or_false] at signs
  rcases signs with rfl | rfl | rfl
  · obtain ⟨-, minus, plus, -⟩ := digits_undisturbed nonempty decimal
    simp [minus, plus]
  · exact ⟨rfl, rfl⟩
  · exact ⟨rfl, rfl⟩

private theorem accepted_of_wholeNumber {value : Text} (whole : WholeNumber value) (option : Text) :
    ∃ number, parsePositiveSize value option = .ok number := by
  obtain ⟨spaces, sign, digits, layout, blank, signs, nonempty, decimal, positive, small⟩ := whole
  have signVisible : ∀ byte ∈ sign, isspace byte = false ∧ byte ≠ 0 := by
    have each : [[], ascii "-", ascii "+"].all (fun sign =>
      sign.all fun byte => decide (isspace byte = false ∧ byte ≠ 0)) = true := by decide
    intro byte inside
    exact of_decide_eq_true (List.all_eq_true.mp (List.all_eq_true.mp each sign signs) byte inside)
  have shown : c_str value = value := by
    apply c_str_of_visible
    rw [layout, List.mem_append, List.mem_append]
    intro held
    rcases held with (inside | inside) | inside
    · exact absurd (blank _ inside) (by decide)
    · exact (signVisible _ inside).2 rfl
    · exact absurd (decimal _ inside) (by decide)
  have unsigned : value.dropWhile isspace = sign ++ digits := by
    rw [layout, List.append_assoc, List.dropWhile_append_of_pos blank]
    obtain ⟨first, rest, shape⟩ := List.exists_cons_of_ne_nil
      (List.append_ne_nil_of_right_ne_nil sign nonempty)
    have visible : isspace first = false := by
      have inside : first ∈ sign ++ digits := by simp [shape]
      rcases List.mem_append.mp inside with inside | inside
      · exact (signVisible first inside).1
      · exact (isdigit_apart (decimal first inside)).1
    rw [shape, List.dropWhile_cons_of_neg (by simp [visible])]
  obtain ⟨behind, width⟩ := signed_digits signs nonempty decimal
  have leading : (leadingNumber value).2 = digits := by
    have taken : digits.takeWhile isdigit = digits := List.takeWhile_eq_self_iff.mpr decimal
    rw [← shown] at unsigned
    unfold leadingNumber
    dsimp only at behind ⊢
    rw [unsigned, behind, taken]
  have length : value.length - (sign ++ digits).length + sign.length + digits.length = value.length := by
    have lengths := congrArg List.length layout
    simp only [List.length_append] at lengths ⊢
    omega
  have bound : unsignedLongBound = 18446744073709551616 := rfl
  have some_ : digits.isEmpty = false := List.isEmpty_eq_false_iff.mpr nonempty
  have read := stoull_eq value
  dsimp only at read width
  rw [shown, unsigned, leading, width, length, some_, if_neg Bool.false_ne_true,
    if_neg (Nat.not_le_of_lt small)] at read
  unfold parsePositiveSize
  rw [read]
  cases (leadingNumber value).1 with
  | true =>
      have wrapped : (unsignedLongBound - digitsValue digits) % unsignedLongBound =
          unsignedLongBound - digitsValue digits := Nat.mod_eq_of_lt (by omega)
      refine ⟨unsignedLongBound - digitsValue digits, ?_⟩
      rw [if_pos rfl, wrapped]
      exact if_neg (by omega)
  | false =>
      refine ⟨digitsValue digits, ?_⟩
      rw [if_neg Bool.false_ne_true]
      exact if_neg (by omega)

private theorem parsePositiveSize_digits {value option : Text} {number : Nat}
    (decimal : ∀ byte ∈ value, isdigit byte = true) :
    parsePositiveSize value option = .ok number ↔ IsNumber (unsignedLongBound - 1) value number := by
  by_cases empty : value = []
  · rw [empty]
    refine iff_of_false ?_ fun number => number.1 rfl
    intro accepted
    cases accepted
  · have leading := leadingNumber_of_isdigit empty decimal
    obtain ⟨visible, minus, plus, -⟩ := digits_undisturbed empty decimal
    have bound : unsignedLongBound = 18446744073709551616 := rfl
    have some_ : value.isEmpty = false := List.isEmpty_eq_false_iff.mpr empty
    have read := stoull_eq value
    dsimp only at read
    rw [visible, leading, minus, plus, c_str_of_isdigit decimal, some_] at read
    unfold parsePositiveSize IsNumber
    rw [read]
    by_cases large : unsignedLongBound ≤ digitsValue value
    · simp only [if_pos large, Bool.false_eq_true, if_false, reduceCtorEq, false_iff]
      intro held
      obtain ⟨-, -, rfl, -, small⟩ := held
      omega
    · simp only [if_neg large, Bool.false_eq_true, if_false, Bool.or_false]
      split_ifs with refused
      · simp only [false_iff]
        intro held
        obtain ⟨-, -, rfl, positive, small⟩ := held
        omega
      · simp only [Except.ok.injEq]
        constructor
        · intro same
          subst same
          exact ⟨empty, decimal, rfl, by omega, by omega⟩
        · exact fun number => number.2.2.1

/-- `parsePositiveSize` reads exactly the numbers among the plain texts. -/
theorem parsePositiveSize_exact_iff (value option : Text) :
    (∀ number, parsePositiveSize value option = .ok number ↔ IsNumber (unsignedLongBound - 1) value number) ↔
      PlainSize value := by
  by_cases decimal : ∀ byte ∈ value, isdigit byte = true
  · exact iff_of_true (fun number => parsePositiveSize_digits decimal) (.inl decimal)
  · unfold PlainSize
    rw [or_iff_right decimal]
    constructor
    · intro exact_ whole
      obtain ⟨number, accepted⟩ := accepted_of_wholeNumber whole option
      exact decimal ((exact_ number).mp accepted).2.1
    · intro other number
      exact iff_of_false (fun accepted => other (wholeNumber_of_accepted accepted))
        fun number => decimal number.2.1

/-- Which texts all three read exactly: as the numbers they denote if they are digits
in range, and else not at all. -/
theorem numericText_exact_iff (value field_name option : Text) :
    ((∀ port : UInt16, parsePort value field_name = .ok port ↔ IsNumber 65535 value port.toNat) ∧
      (∀ address, ∀ port : UInt16, parseEndpoint value field_name = .ok (address, port) ↔
        ∃ digits, value = address ++ byteOf ':' :: digits ∧ isIpv4Address address = true ∧
          IsNumber 65535 digits port.toNat) ∧
      ∀ number, parsePositiveSize value option = .ok number ↔
        IsNumber (unsignedLongBound - 1) value number) ↔
      PlainPort value ∧ PlainEndpoint value ∧ PlainSize value := by
  rw [parsePort_exact_iff, parseEndpoint_exact_iff, parsePositiveSize_exact_iff]

theorem trailingText_accepted : parsePort (ascii "80abc") (ascii "tcp_listen_port") = .ok 80 ∧
    ¬ IsNumber 65535 (ascii "80abc") 80 ∧
    parsePositiveSize (ascii "-1") (ascii "--count") = .ok 18446744073709551615 ∧
    ¬ IsNumber (unsignedLongBound - 1) (ascii "-1") 18446744073709551615 := by
  refine ⟨by decide, fun number => ?_, by decide, fun number => ?_⟩
  · exact absurd (number.2.1 (byteOf 'a') (by decide)) (by decide)
  · exact absurd (number.2.1 (byteOf '-') (by decide)) (by decide)

end DatagramTunneler
