import DatagramTunneler.Control.ServeConnection
import DatagramTunneler.Foundation.Http

/-! Requests of clients that keep to HTTP, as the control server receives them. Its
reader is more generous than the format, so what matters is that it takes such a
request for what it is, in whatever pieces it arrives. -/

set_option autoImplicit false

namespace DatagramTunneler

open Foundation

/-! ## The head of a request -/

/-- Lines with an end between each and the next. -/
def joined (first : Text) (rest : List Text) : Text :=
  first ++ rest.flatMap fun line => Http.lineEnd ++ line

/-- What `getline` makes of them: the carriage returns stay. -/
def returned : Text → List Text → List Text
  | first, [] => [first]
  | first, next :: rest => (first ++ [byteOf '\r']) :: returned next rest

private theorem spelled_joined (first : Text) (lines : List Text) (body : Text) :
    first ++ Http.lineEnd ++ lines.flatMap (· ++ Http.lineEnd) ++ Http.lineEnd ++ body =
      joined first lines ++ headTerminator ++ body := by
  have ends : Http.lineEnd ++ lines.flatMap (· ++ Http.lineEnd) =
      lines.flatMap (fun line => Http.lineEnd ++ line) ++ Http.lineEnd := by
    induction lines with
    | nil => rfl
    | cons line lines ih =>
        rw [List.flatMap_cons, List.flatMap_cons, List.append_assoc, List.append_assoc, ← ih]
        simp only [List.append_assoc]
  have terminator : headTerminator = Http.lineEnd ++ Http.lineEnd := by decide
  rw [joined, terminator, List.append_assoc first, ends]
  simp only [List.append_assoc]

section

variable {first : Text} {rest : List Text}

/-- No end begins inside a line. -/
theorem search_skip {line : Text} (clean : byteOf '\r' ∉ line) (behind : Text) :
    search headTerminator (line ++ behind) =
      (search headTerminator behind).map (· + line.length) := by
  induction line with
  | nil => simp
  | cons byte line ih =>
      rw [List.mem_cons, not_or] at clean
      have other : headTerminator.isPrefixOf (byte :: (line ++ behind)) = false := by
        have terminator : headTerminator = byteOf '\r' :: ascii "\n\r\n" := by decide
        rw [terminator, List.isPrefixOf_cons_cons, beq_eq_false_iff_ne.mpr clean.1, Bool.false_and]
      rw [List.cons_append, search, other, if_neg Bool.false_ne_true, ih clean.2, Option.map_map]
      rfl

/-- The head ends behind its last line. -/
theorem search_joined (clean : ∀ line ∈ first :: rest, line ≠ [] ∧ byteOf '\r' ∉ line) (body : Text) :
    search headTerminator (joined first rest ++ headTerminator ++ body) =
      some (joined first rest).length := by
  induction rest generalizing first with
  | nil =>
      have here := (clean first (List.mem_cons_self ..)).2
      have found : search headTerminator (headTerminator ++ body) = some 0 := rfl
      rw [joined, List.flatMap_nil, List.append_nil, List.append_assoc, search_skip here, found,
        Option.map_some, Nat.zero_add]
  | cons next rest ih =>
      have here := (clean first (List.mem_cons_self ..)).2
      have later := ih fun line inside => clean line (List.mem_cons_of_mem _ inside)
      obtain ⟨some_, noReturn⟩ := clean next (List.mem_cons_of_mem _ (List.mem_cons_self ..))
      have layout : joined first (next :: rest) ++ headTerminator ++ body =
          first ++ byteOf '\r' :: byteOf '\n' :: (joined next rest ++ headTerminator ++ body) := by
        simp [joined, Http.lineEnd, Http.carriageReturn, Http.lineFeed, byteOf]
      obtain ⟨head, tail, rfl⟩ := List.exists_cons_of_ne_nil some_
      have other : headTerminator.isPrefixOf (byteOf '\r' :: byteOf '\n' ::
          (joined (head :: tail) rest ++ headTerminator ++ body)) = false := by
        have terminator : headTerminator = byteOf '\r' :: byteOf '\n' :: byteOf '\r' :: [byteOf '\n'] := by
          decide
        rw [List.mem_cons, not_or] at noReturn
        rw [terminator, List.isPrefixOf_cons_cons, List.isPrefixOf_cons_cons, joined, List.cons_append,
          List.cons_append, List.cons_append, List.isPrefixOf_cons_cons, beq_eq_false_iff_ne.mpr noReturn.1]
        simp
      have feed : headTerminator.isPrefixOf (byteOf '\n' ::
          (joined (head :: tail) rest ++ headTerminator ++ body)) = false := rfl
      rw [layout, search_skip here, search, other, if_neg Bool.false_ne_true, search, feed,
        if_neg Bool.false_ne_true, later]
      simp [joined, Http.lineEnd]
      omega

private theorem splitOnByte_joined (clean : ∀ line ∈ first :: rest, byteOf '\n' ∉ line) :
    splitOnByte (byteOf '\n') (joined first rest) = returned first rest := by
  induction rest generalizing first with
  | nil =>
      have here := clean first (List.mem_cons_self ..)
      have alone := @splitOnByte_prepend _ first [] [] [] here rfl
      rw [List.append_nil] at alone
      rw [joined, List.flatMap_nil, List.append_nil, alone]
      rfl
  | cons next rest ih =>
      have here := clean first (List.mem_cons_self ..)
      have layout : joined first (next :: rest) =
          (first ++ [byteOf '\r']) ++ byteOf '\n' :: joined next rest := by
        simp [joined, Http.lineEnd, Http.carriageReturn, Http.lineFeed, byteOf]
      have line : byteOf '\n' ∉ first ++ [byteOf '\r'] := by
        rw [List.mem_append, not_or]
        exact ⟨here, by decide⟩
      rw [layout, splitOnByte_append line, ih fun line inside => clean line (List.mem_cons_of_mem _ inside)]
      rfl

theorem getLast?_returned : (returned first rest).getLast? = (first :: rest).getLast? := by
  induction rest generalizing first with
  | nil => rfl
  | cons next rest ih =>
      rw [returned, List.getLast?_cons, ih, List.getLast?_cons, List.getLast?_cons, List.getLast?_cons]
      rfl

private theorem withoutReturn_of_clean {line : Text} (clean : byteOf '\r' ∉ line) : withoutReturn line = line := by
  unfold withoutReturn
  split
  · next last => exact absurd (List.mem_of_getLast? last) clean
  · rfl

private theorem map_withoutReturn_returned (clean : ∀ line ∈ first :: rest, byteOf '\r' ∉ line) :
    (returned first rest).map withoutReturn = first :: rest := by
  induction rest generalizing first with
  | nil => rw [returned, List.map_singleton, withoutReturn_of_clean (clean first (List.mem_cons_self ..))]
  | cons next rest ih =>
      have removed : withoutReturn (first ++ [byteOf '\r']) = first := by simp [withoutReturn]
      rw [returned, List.map_cons, removed, ih fun line inside => clean line (List.mem_cons_of_mem _ inside)]

private theorem getlines_joined (clean : ∀ line ∈ first :: rest, line ≠ [] ∧ byteOf '\n' ∉ line) :
    getlines (joined first rest) = returned first rest := by
  have last : (returned first rest).getLast? ≠ some [] := by
    rw [getLast?_returned]
    intro empty
    exact (clean [] (List.mem_of_getLast? empty)).1 rfl
  unfold getlines
  simp only [splitOnByte_joined fun line inside => (clean line inside).2]
  rw [if_neg last]

/-- Reading a line goes by what it is without its carriage return. -/
theorem readHead_joined (clean : ∀ line ∈ first :: rest,
    line ≠ [] ∧ byteOf '\r' ∉ line ∧ byteOf '\n' ∉ line) :
    readHead (joined first rest) = (readRequestLine first).bind (rest.foldlM readHeader ·) := by
  have lines := getlines_joined fun line inside => ⟨(clean line inside).1, (clean line inside).2.2⟩
  have noReturn : ∀ line ∈ first :: rest, byteOf '\r' ∉ line := fun line inside => (clean line inside).2.1
  have stripped := map_withoutReturn_returned noReturn
  have same : ∀ {line line_ : Text}, withoutReturn line = line_ → byteOf '\r' ∉ line_ →
      readRequestLine line = readRequestLine line_ ∧
        ∀ request, readHeader request line = readHeader request line_ := by
    intro line line_ strips absent
    constructor
    · rw [readRequestLine, readRequestLine, strips, withoutReturn_of_clean absent]
    · intro request
      rw [readHeader, readHeader, strips, withoutReturn_of_clean absent]
  have folded : ∀ {lines lines_ : List Text}, lines.map withoutReturn = lines_ →
      (∀ line ∈ lines_, byteOf '\r' ∉ line) → ∀ request,
      lines.foldlM readHeader request = lines_.foldlM readHeader request := by
    intro lines
    induction lines with
    | nil =>
        intro lines_ strips _ request
        rw [← strips]
        rfl
    | cons line lines ih =>
        intro lines_ strips absent request
        subst strips
        have here := (same rfl (absent _ (List.mem_cons_self ..))).2 request
        rw [List.map_cons, List.foldlM_cons, List.foldlM_cons, here]
        exact congrArg _ (funext fun request =>
          ih rfl (fun line inside => absent line (List.mem_cons_of_mem _ inside)) request)
  rw [readHead, lines]
  cases shape : returned first rest with
  | nil =>
      rw [shape] at stripped
      cases stripped
  | cons line lines =>
      rw [shape, List.map_cons, List.cons.injEq] at stripped
      obtain ⟨head, tail⟩ := stripped
      have opening := (same head (noReturn first (List.mem_cons_self ..))).1
      simp only [opening]
      exact congrArg _ (funext fun request =>
        folded tail (fun line inside => noReturn line (List.mem_cons_of_mem _ inside)) request)

end

/-! ## What the lines say -/

def insertField (headers : Std.ExtTreeMap Text Text compare) (field : HttpField) :
    Std.ExtTreeMap Text Text compare :=
  headers.insert (lower field.name) field.value

/-- The map of the fields; of two with one name the last one counts. -/
def headersOf (fields : List HttpField) : Std.ExtTreeMap Text Text compare := fields.foldl insertField ∅

theorem getElem?_headersOf (fields : List HttpField) (name : String) :
    (headersOf fields)[ascii name]? = (Http.valuesOf fields name).getLast? := by
  have folded : ∀ (fields : List HttpField) (headers : Std.ExtTreeMap Text Text compare),
      (fields.foldl insertField headers)[ascii name]? =
        ((headers[ascii name]?).toList ++ Http.valuesOf fields name).getLast? := by
    intro fields
    induction fields with
    | nil =>
        intro headers
        have nothing : Http.valuesOf [] name = [] := rfl
        rw [List.foldl_nil, nothing, List.append_nil]
        cases headers[ascii name]? <;> rfl
    | cons field fields ih =>
        intro headers
        rw [List.foldl_cons, ih, insertField, Std.ExtTreeMap.getElem?_insert, Http.valuesOf_cons]
        by_cases same : lower field.name = ascii name
        · have named : Http.lowercase field.name = name.toList.map codeByte := same
          rw [if_pos named, if_pos (by rw [same]; exact Std.ReflCmp.compare_self)]
          cases headers[ascii name]? with
          | none => rfl
          | some value => simp [List.getLast?_cons]
        · have other : ¬compare (lower field.name) (ascii name) = .eq :=
            fun equal => same (Std.LawfulEqCmp.eq_of_compare equal)
          have unnamed : ¬Http.lowercase field.name = name.toList.map codeByte := same
          rw [if_neg unnamed, if_neg other, List.nil_append]
  have start := folded fields ∅
  rwa [Std.ExtTreeMap.getElem?_empty, Option.toList_none, List.nil_append] at start

section

variable {message : HttpMessage} {method target : Text}

private theorem isspace_of_visible {byte : UInt8} (visible : 0x21 ≤ byte) : isspace byte = false := by
  simp only [isspace, UInt8.le_iff_toNat_le] at visible ⊢
  have code : 33 ≤ byte.toNat := visible
  have noSpace : byte ≠ 0x20 := by
    intro same
    rw [same] at code
    exact absurd code (by decide)
  have large : ¬byte.toNat ≤ 13 := by omega
  simpa [noSpace] using fun _ => large

private theorem visible_of_token {byte : UInt8} (token : Http.isTokenByte byte = true) :
    0x21 ≤ byte ∧ byte ≤ 0x7e := by
  have each : ∀ code < 256, Http.isTokenByte (UInt8.ofNat code) = true →
      0x21 ≤ UInt8.ofNat code ∧ UInt8.ofNat code ≤ 0x7e := by decide +kernel
  have here := each byte.toNat byte.toNat_lt
  rw [UInt8.ofNat_toNat] at here
  exact here token

/-- A word is taken up to the space behind it. -/
theorem extractWord_append {word : Text} (some_ : word ≠ [])
    (visible : ∀ byte ∈ word, isspace byte = false) (rest : Text) :
    extractWord (word ++ Http.space :: rest) = some (word, Http.space :: rest) := by
  obtain ⟨first, tail, rfl⟩ := List.exists_cons_of_ne_nil some_
  have opened : (first :: tail ++ Http.space :: rest).dropWhile isspace =
      first :: tail ++ Http.space :: rest := by
    rw [List.cons_append, List.dropWhile_cons_of_neg (by simp [visible first (List.mem_cons_self ..)])]
  have word : ∀ byte ∈ first :: tail, (!isspace byte) = true := fun byte inside => by
    rw [visible byte inside]
    rfl
  have taken : (Http.space :: rest).takeWhile (fun byte => !isspace byte) = [] :=
    List.takeWhile_cons_of_neg (by decide)
  have dropped : (Http.space :: rest).dropWhile (fun byte => !isspace byte) = Http.space :: rest :=
    List.dropWhile_cons_of_neg (by decide)
  simp only [extractWord, opened]
  rw [if_neg (by simp), List.takeWhile_append_of_pos word, List.dropWhile_append_of_pos word, taken,
    dropped, List.append_nil]

private theorem extractWord_space (stream : Text) : extractWord (Http.space :: stream) = extractWord stream := by
  have blank : isspace Http.space = true := by decide
  simp only [extractWord, List.dropWhile_cons_of_pos blank]

private theorem readRequestLine_of_request (requests : message.Requests method target) :
    readRequestLine message.line = some { method := method, target := target, headers := ∅, body := [] } := by
  have final : extractWord Http.version = some (ascii "HTTP/1.1", []) := by decide
  have noReturn : byteOf '\r' ∉ message.line := by
    rw [requests.line]
    intro inside
    have front : byteOf '\r' ∉ Http.space :: Http.version := by decide
    rcases List.mem_append.mp inside with inside | inside
    · rcases List.mem_append.mp inside with inside | inside
      · exact absurd (visible_of_token (requests.method.2 _ inside)).1 (by decide)
      · rcases List.mem_cons.mp inside with same | inside
        · exact absurd same (by decide)
        · exact absurd (requests.target.2 _ inside).1 (by decide)
    · exact front inside
  have methodWord : ∀ byte ∈ method, isspace byte = false := fun byte inside =>
    isspace_of_visible (visible_of_token (requests.method.2 byte inside)).1
  have targetWord : ∀ byte ∈ target, isspace byte = false := fun byte inside =>
    isspace_of_visible (requests.target.2 byte inside).1
  rw [readRequestLine, withoutReturn_of_clean noReturn, requests.line, List.append_assoc, List.cons_append,
    extractWord_append requests.method.1 methodWord]
  simp only [Option.bind_eq_bind, Option.bind_some, extractWord_space,
    extractWord_append requests.target.1 targetWord, final]
  rfl

private theorem isspace_of_blank {byte : UInt8} (blank : Http.isBlank byte = true) : isspace byte = true := by
  rcases (by simpa [Http.isBlank] using blank : byte = 0x20 ∨ byte = 0x09) with rfl | rfl <;> decide

private theorem not_isspace_of_opened {byte : UInt8} (text : Http.isTextByte byte = true)
    (opened : Http.isBlank byte = false) : isspace byte = false := by
  have each : ∀ code < 256, Http.isTextByte (UInt8.ofNat code) = true →
      Http.isBlank (UInt8.ofNat code) = false → isspace (UInt8.ofNat code) = false := by
    decide +kernel
  have here := each byte.toNat byte.toNat_lt
  rw [UInt8.ofNat_toNat] at here
  exact here text opened

/-- The blanks in front of a value are skipped, and no more. -/
theorem dropWhile_gap {field : HttpField} (legal : field.Legal) {gap : Text}
    (blank : ∀ byte ∈ gap, Http.isBlank byte = true) :
    (gap ++ field.value).dropWhile isspace = field.value := by
  rw [List.dropWhile_append_of_pos fun byte inside => isspace_of_blank (blank byte inside)]
  cases shape : field.value with
  | nil => rfl
  | cons byte value =>
      have opened := legal.opened byte (by rw [shape]; rfl)
      have allowed := legal.text byte (by rw [shape]; exact List.mem_cons_self ..)
      rw [List.dropWhile_cons_of_neg (by simp [not_isspace_of_opened allowed opened])]

private theorem readHeader_of_line {field : HttpField} (legal : field.Legal) {line : Text} (said : field.Line line)
    (request : HttpRequest) :
    readHeader request line = some { request with headers := insertField request.headers field } := by
  have text := legal.line_text said
  have noReturn : byteOf '\r' ∉ line := fun inside => (Http.isTextByte_apart (text _ inside)).1 rfl
  obtain ⟨gap, blank, rfl⟩ := said
  have layout : field.name ++ codeByte ':' :: gap ++ field.value =
      field.name ++ byteOf ':' :: (gap ++ field.value) := by simp [codeByte, byteOf]
  rw [layout] at noReturn ⊢
  have colon : find (field.name ++ byteOf ':' :: (gap ++ field.value)) (byteOf ':') = some field.name.length :=
    find_eq_some.mpr ⟨field.name, gap ++ field.value, rfl,
      fun inside => (Http.isTokenByte_apart (legal.token _ inside)).1 rfl, rfl⟩
  have behind : (field.name ++ byteOf ':' :: (gap ++ field.value)).drop (field.name.length + 1) =
      gap ++ field.value := by
    rw [← List.drop_drop, List.drop_left]
    rfl
  rw [readHeader, withoutReturn_of_clean noReturn]
  simp only [colon, Option.bind_eq_bind, Option.bind_some, List.take_left, behind, dropWhile_gap legal blank]
  rfl

private theorem foldlM_readHeader {fields : List HttpField} {lines : List Text}
    (said : List.Forall₂ HttpField.Line fields lines) (legal : ∀ field ∈ fields, field.Legal)
    (request : HttpRequest) : lines.foldlM readHeader request =
      some { request with headers := fields.foldl insertField request.headers } := by
  induction said generalizing request with
  | nil => rfl
  | cons here said ih =>
      rw [List.foldlM_cons, readHeader_of_line (legal _ (List.mem_cons_self ..)) here,
        Option.bind_eq_bind, Option.bind_some, ih fun field inside => legal field (List.mem_cons_of_mem _ inside)]
      rfl

/-- The request that a message makes. -/
def requestOf (message : HttpMessage) (method target : Text) : HttpRequest where
  method := method
  target := target
  headers := headersOf message.fields
  body := message.body

private theorem exists_field_of_line {fields : List HttpField} {lines : List Text}
    (said : List.Forall₂ HttpField.Line fields lines) {line : Text} (inside : line ∈ lines) :
    ∃ field ∈ fields, field.Line line := by
  induction said with
  | nil => cases inside
  | cons here said ih =>
      rcases List.mem_cons.mp inside with rfl | inside
      · exact ⟨_, List.mem_cons_self .., here⟩
      · obtain ⟨field, listed, later⟩ := ih inside
        exact ⟨field, List.mem_cons_of_mem _ listed, later⟩

private theorem clean_lines (requests : message.Requests method target) {lines : List Text}
    (said : List.Forall₂ HttpField.Line message.fields lines) :
    ∀ line ∈ message.line :: lines, line ≠ [] ∧ byteOf '\r' ∉ line ∧ byteOf '\n' ∉ line := by
  have visible : ∀ byte ∈ message.line, 0x20 ≤ byte := by
    rw [requests.line]
    intro byte inside
    have final : (Http.space :: Http.version).all (0x20 ≤ ·) = true := by decide
    have above : ∀ {byte : UInt8}, 0x21 ≤ byte → 0x20 ≤ byte := fun low => UInt8.le_trans (by decide) low
    rcases List.mem_append.mp inside with inside | inside
    · rcases List.mem_append.mp inside with inside | inside
      · exact above (visible_of_token (requests.method.2 _ inside)).1
      · rcases List.mem_cons.mp inside with rfl | inside
        · decide
        · exact above (requests.target.2 _ inside).1
    · exact of_decide_eq_true (List.all_eq_true.mp final byte inside)
  intro line inside
  rcases List.mem_cons.mp inside with rfl | inside
  · refine ⟨by rw [requests.line]; simp, fun inside => ?_, fun inside => ?_⟩
    · exact absurd (visible _ inside) (by decide)
    · exact absurd (visible _ inside) (by decide)
  · obtain ⟨field, listed, here⟩ := exists_field_of_line said inside
    have text := (requests.fields field listed).line_text here
    refine ⟨?_, fun inside => (Http.isTextByte_apart (text _ inside)).1 rfl,
      fun inside => (Http.isTextByte_apart (text _ inside)).2 rfl⟩
    obtain ⟨gap, -, rfl⟩ := here
    simp

private theorem readHead_of_request (requests : message.Requests method target) {lines : List Text}
    (said : List.Forall₂ HttpField.Line message.fields lines) :
    readHead (joined message.line lines) = some { requestOf message method target with body := [] } := by
  rw [readHead_joined (clean_lines requests said), readRequestLine_of_request requests, Option.bind_some,
    foldlM_readHeader said requests.fields]
  rfl

/-- The length that the request announces is that of its body. -/
theorem contentLength_of_request (requests : message.Requests method target)
    (small : message.body.length ≤ kMaximumRequestSize) (body : Text) :
    contentLength { requestOf message method target with body := body } = some message.body.length := by
  have looked := getElem?_headersOf message.fields "content-length"
  unfold contentLength requestOf
  simp only [looked]
  cases requests.framed with
  | inl none_ =>
      rw [none_.1, none_.2]
      rfl
  | inr announced =>
      unfold Http.announcedLength at announced
      split at announced
      · next digits whole written =>
          split_ifs at announced with decimal
          have value : digitsValue digits = message.body.length := Option.some.inj announced
          have all : ∀ byte ∈ digits, isdigit byte = true := by
            intro byte inside
            have digit := List.all_eq_true.mp decimal.2 byte inside
            simp only [Http.isDigit, Bool.and_eq_true, decide_eq_true_eq] at digit
            simp only [isdigit, Bool.and_eq_true, decide_eq_true_eq]
            exact digit
          have taken : digits.takeWhile isdigit = digits := List.takeWhile_eq_self_iff.mpr all
          have bound : kMaximumRequestSize < unsignedLongBound := by decide
          have read : from_chars digits = some message.body.length := by
            simp only [from_chars, taken, value]
            rw [if_neg]
            rw [not_or, List.isEmpty_iff]
            exact ⟨decimal.1, by omega⟩
          rw [written]
          simp only [List.getLast?_singleton, read]
          have whole : digits.all isdigit = true := List.all_eq_true.mpr all
          rw [if_neg]
          rw [whole, not_or]
          exact ⟨Bool.false_ne_true, Nat.not_lt.mpr small⟩
      · cases announced

theorem receiveRequest_of_requests (requests : message.Requests method target) {bytes : Text}
    (spelled : message.Spells bytes) (small : bytes.length ≤ kMaximumRequestSize + message.body.length)
    (smallBody : message.body.length ≤ kMaximumRequestSize)
    (segmentation : Segmentation kReceiveBufferSize bytes) :
    receiveRequest segmentation.segments = some (requestOf message method target) := by
  obtain ⟨lines, said, layout⟩ := spelled
  rw [spelled_joined] at layout
  have clean := clean_lines requests said
  have found := search_joined (fun line inside => ⟨(clean line inside).1, (clean line inside).2.1⟩) message.body
  have readable := readHead_of_request requests said
  rw [← layout] at found
  generalize joined message.line lines = head at layout found readable
  have terminator := length_headTerminator
  have total : bytes.length = head.length + 4 + message.body.length := by
    rw [layout, List.length_append, List.length_append, terminator]
  have announces : Announces bytes (head.length + 4) message.body.length
      { requestOf message method target with body := [] } := by
    refine ⟨head.length, found, rfl, ?_, contentLength_of_request requests smallBody []⟩
    rwa [layout, List.append_assoc, List.take_left]
  obtain ⟨before, completes⟩ := @exists_completesAt _ segmentation.segments (head.length + 4)
    (Nat.succ_pos _) (by rw [segmentation.whole, total]; exact Nat.le_add_right _ _)
  have missing : before < head.length + 4 := by
    obtain ⟨-, -, -, -, -, missing, -⟩ := completes
    exact missing
  have ends := endsAt_length segmentation.segments
  rw [segmentation.whole, total] at ends
  refine (receiveRequest_eq_some segmentation).mpr ⟨_, _, _, announces,
    ⟨before, by omega, completes⟩, ends, ?_⟩
  have body : bytes.drop (head.length + 4) = message.body := by
    rw [layout]
    exact List.drop_left' (by rw [List.length_append, terminator])
  rw [body, List.take_length]
  rfl

/-- A request that keeps to the format, of a size the server allows, is received as what it
says, with any blanks in front of its values and however it is cut on the way: its method,
target and body, and under every name the last value of the fields with that name in whatever
case, without the blanks in front of it. -/
theorem receiveRequest_text (requests : message.Requests method target) {bytes : Text}
    (spelled : message.Spells bytes) (small : bytes.length ≤ kMaximumRequestSize + message.body.length)
    (smallBody : message.body.length ≤ kMaximumRequestSize)
    (segmentation : Segmentation kReceiveBufferSize bytes) :
    ∃ request, receiveRequest segmentation.segments = some request ∧
      request.method = method ∧ request.target = target ∧ request.body = message.body ∧
      ∀ name : String, request.headers[ascii name]? = (Http.valuesOf message.fields name).getLast? :=
  ⟨requestOf message method target, receiveRequest_of_requests requests spelled small smallBody segmentation,
    rfl, rfl, rfl, getElem?_headersOf message.fields⟩

end

/-- What a client sends to ask for the health of the server. -/
def healthMessage : HttpMessage where
  line := ascii "GET /api/v1/health HTTP/1.1"
  fields := [⟨ascii "Host", ascii "127.0.0.1:28080"⟩, ⟨ascii "Accept", ascii "application/json"⟩,
    ⟨ascii "accept", ascii "text/html "⟩]
  body := []

private theorem healthMessage_requests : healthMessage.Requests (ascii "GET") kHealthPath where
  line := by decide
  method := ⟨by decide, List.all_eq_true.mp (by decide)⟩
  target :=
    have printable : kHealthPath.all (fun byte => decide (0x21 ≤ byte ∧ byte ≤ 0x7e)) = true := by decide
    ⟨by decide, fun byte inside => of_decide_eq_true (List.all_eq_true.mp printable byte inside)⟩
  fields := by decide
  framed := .inl (by decide)

/-- No blank, one of each kind, and two. -/
def healthBytes : Text :=
  ascii "GET /api/v1/health HTTP/1.1\r\nHost:127.0.0.1:28080\r\nAccept: \tapplication/json\r\n" ++
    ascii "accept:  text/html \r\n\r\n"

private theorem healthMessage_spells : healthMessage.Spells healthBytes :=
  ⟨[ascii "Host:127.0.0.1:28080", ascii "Accept: \tapplication/json", ascii "accept:  text/html "],
    .cons ⟨[], List.forall_mem_nil _, by decide⟩
      (.cons ⟨ascii " \t", List.all_eq_true.mp (by decide), by decide⟩
        (.cons ⟨ascii "  ", List.all_eq_true.mp (by decide), by decide⟩ .nil)), by decide⟩

def healthSegments : Segmentation kReceiveBufferSize healthBytes where
  segments := [healthBytes.take 21, healthBytes.drop 21]
  whole := by simp
  sized := by decide

/-- Of the two fields with one name the last one counts, with the blank behind its value. -/
theorem receiveRequest_health : ∃ request, receiveRequest healthSegments.segments = some request ∧
    request.method = ascii "GET" ∧ request.target = kHealthPath ∧ request.body = [] ∧
    request.headers[ascii "host"]? = some (ascii "127.0.0.1:28080") ∧
    request.headers[ascii "accept"]? = some (ascii "text/html ") := by
  obtain ⟨request, received, method, target, body, headers⟩ :=
    receiveRequest_text healthMessage_requests healthMessage_spells (by decide) (by decide) healthSegments
  exact ⟨request, received, method, target, body, (headers "host").trans (by decide),
    (headers "accept").trans (by decide)⟩

end DatagramTunneler
