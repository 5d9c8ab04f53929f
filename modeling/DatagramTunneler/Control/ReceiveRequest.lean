import DatagramTunneler.Control.ProducerRequest
import DatagramTunneler.Foundation.Segments

/-! How the control server reads a request. Segments are received until the end of the
head has arrived, and then until the body is as long as announced. What a segment
brings beyond that end is kept, and makes the body too long. -/

set_option autoImplicit false

namespace DatagramTunneler

open Foundation

def kMaximumRequestSize : Nat := 1024 * 1024

/-- `buffer.size()`: no `recv` brings more. -/
def kReceiveBufferSize : Nat := 4096

structure HttpRequest where
  method : Text
  target : Text
  headers : Std.ExtTreeMap Text Text compare
  body : Text

def lower (value : Text) : Text :=
  value.map fun byte => if byteOf 'A' ≤ byte ∧ byte ≤ byteOf 'Z' then byte + 0x20 else byte

def contentLength (request : HttpRequest) : Option Nat :=
  match request.headers[ascii "content-length"]? with
  | none => some 0
  | some text =>
      match from_chars text with
      | none => none
      | some value => if !text.all isdigit ∨ kMaximumRequestSize < value then none else some value

/-- `stream >> word`, with what is left in the stream. -/
def extractWord (stream : Text) : Option (Text × Text) :=
  let rest := stream.dropWhile isspace
  if rest.isEmpty then none
  else some (rest.takeWhile (!isspace ·), rest.dropWhile (!isspace ·))

def withoutReturn (line : Text) : Text :=
  if line.getLast? = some (byteOf '\r') then line.dropLast else line

/-- The first line, with `method`, `target` and `version`. -/
def readRequestLine (line : Text) : Option HttpRequest := do
  let (method, rest) ← extractWord (withoutReturn line)
  let (target, rest) ← extractWord rest
  let (version, _) ← extractWord rest
  if version ≠ ascii "HTTP/1.1" then none
  else return { method := method, target := target, headers := ∅, body := [] }

def readHeader (request : HttpRequest) (line : Text) : Option HttpRequest := do
  let line := withoutReturn line
  let colon ← find line (byteOf ':')
  let name := lower (line.take colon)
  let value := (line.drop (colon + 1)).dropWhile isspace
  return { request with headers := request.headers.insert name value }

/-- The part of `receiveRequest` between its two loops. -/
def readHead (head : Text) : Option HttpRequest :=
  match getlines head with
  | [] => none
  | line :: lines => do
      let request ← readRequestLine line
      lines.foldlM readHeader request

def headTerminator : Text := ascii "\r\n\r\n"

/-- The first loop: the data, the end of the head in it, and the segments still to come. -/
def receiveHead (data : Text) : List Text → Option (Text × Nat × List Text)
  | [] => none
  | segment :: segments =>
      if kMaximumRequestSize ≤ data.length ∨ segment.isEmpty then none
      else match search headTerminator (data ++ segment) with
        | some header_end => some (data ++ segment, header_end, segments)
        | none => receiveHead (data ++ segment) segments

/-- The second loop. -/
def receiveBody (expected_length : Nat) (body : Text) : List Text → Option Text
  | [] => if body.length < expected_length then none else some body
  | segment :: segments =>
      if body.length < expected_length then
        if segment.isEmpty then none else receiveBody expected_length (body ++ segment) segments
      else some body

/-- `segments` are the results of `recv`, which fails when there are no more. -/
def receiveRequest (segments : List Text) : Option HttpRequest := do
  let (data, header_end, segments) ← receiveHead [] segments
  let request ← readHead (data.take header_end)
  let expected_length ← contentLength request
  let body ← receiveBody expected_length (data.drop (header_end + 4)) segments
  if body.length ≠ expected_length then none else return { request with body := body }

/-! ## Searching -/

private theorem search_eq_some {marker text : Text} {index : Nat} :
    search marker text = some index ↔ index ≤ text.length ∧ marker <+: text.drop index ∧
      ∀ earlier < index, ¬ marker <+: text.drop earlier := by
  induction text generalizing index with
  | nil =>
      rw [search]
      cases marker with
      | nil =>
          simp only [List.isEmpty_nil, if_true, Option.some.injEq, List.length_nil]
          constructor
          · intro same
            subst same
            exact ⟨Nat.le_refl _, List.nil_prefix, fun _ absurd_ => absurd absurd_ (Nat.not_lt_zero _)⟩
          · intro found
            exact (Nat.le_zero.mp found.1).symm
      | cons byte marker => simp
  | cons byte text ih =>
      rw [search]
      by_cases here : marker.isPrefixOf (byte :: text) = true
      · rw [if_pos here, Option.some.injEq]
        have here := List.isPrefixOf_iff_prefix.mp here
        constructor
        · intro same
          subst same
          exact ⟨Nat.zero_le _, here, fun _ absurd_ => absurd absurd_ (Nat.not_lt_zero _)⟩
        · intro found
          by_contra later
          exact found.2.2 0 (by omega) here
      · rw [if_neg here, Option.map_eq_some_iff]
        have here := mt List.isPrefixOf_iff_prefix.mpr here
        constructor
        · intro held
          obtain ⟨before, found, rfl⟩ := held
          obtain ⟨within, stands, first⟩ := ih.mp found
          refine ⟨Nat.succ_le_succ within, stands, ?_⟩
          intro earlier less
          cases earlier with
          | zero => exact here
          | succ earlier => exact first earlier (Nat.lt_of_succ_lt_succ less)
        · intro held
          obtain ⟨within, stands, first⟩ := held
          cases index with
          | zero => exact absurd stands here
          | succ index =>
              refine ⟨index, ih.mpr ⟨Nat.le_of_succ_le_succ within, stands, ?_⟩, rfl⟩
              intro earlier less
              exact first (earlier + 1) (Nat.succ_lt_succ less)

/-- What has been found stays where it is. -/
theorem search_append {marker text more : Text} {index : Nat} (found : search marker text = some index) :
    search marker (text ++ more) = some index := by
  obtain ⟨within, stands, first⟩ := search_eq_some.mp found
  have size := stands.length_le
  rw [List.length_drop] at size
  refine search_eq_some.mpr ⟨by rw [List.length_append]; omega, ?_, ?_⟩
  · rw [List.drop_append_of_le_length within]
    exact stands.trans (List.prefix_append ..)
  · intro earlier less stands
    rw [List.drop_append_of_le_length (by omega)] at stands
    refine first earlier less (List.prefix_of_prefix_length_le stands (List.prefix_append ..) ?_)
    rw [List.length_drop]
    omega

/-- It is found as soon as all of it is there. -/
theorem search_take {marker text : Text} {index size : Nat} (found : search marker text = some index) :
    search marker (text.take size) = if index + marker.length ≤ size then some index else none := by
  obtain ⟨within, stands, first⟩ := search_eq_some.mp found
  split_ifs with enough
  · refine search_eq_some.mpr ⟨?_, ?_, ?_⟩
    · rw [List.length_take]
      omega
    · rw [List.drop_take]
      apply List.prefix_take_iff.mpr
      exact ⟨stands, by omega⟩
    · intro earlier less early
      rw [List.drop_take] at early
      exact first earlier less (early.trans (List.take_prefix ..))
  · cases early : search marker (text.take size) with
    | none => rfl
    | some other =>
        have later := @search_append _ _ (text.drop size) _ early
        rw [List.take_append_drop, found] at later
        obtain ⟨-, inside, -⟩ := search_eq_some.mp early
        have bound := inside.length_le
        rw [List.length_drop, List.length_take] at bound
        have same := Option.some.inj later
        have small := (search_eq_some.mp early).1
        rw [List.length_take] at small
        omega

/-! ## The two loops -/

section

variable {data all body : Text} {segments rest : List Text} {header_end expected_length : Nat}

private theorem receiveHead_eq_some (some_ : ∀ segment ∈ segments, segment ≠ [])
    (missing : search headTerminator data = none) :
    receiveHead data segments = some (all, header_end, rest) ↔
      ∃ front segment, segments = front ++ segment :: rest ∧ all = data ++ front.flatten ++ segment ∧
        (data ++ front.flatten).length < kMaximumRequestSize ∧
        search headTerminator (data ++ front.flatten) = none ∧
        search headTerminator all = some header_end := by
  induction segments generalizing data with
  | nil => simp [receiveHead]
  | cons segment segments ih =>
      have here := some_ segment (List.mem_cons_self ..)
      have later : ∀ other ∈ segments, other ≠ [] := fun other listed =>
        some_ other (List.mem_cons_of_mem _ listed)
      rw [receiveHead]
      split_ifs with full
      · simp only [false_iff]
        intro received
        obtain ⟨front, last, layout, -, small, -⟩ := received
        rw [List.length_append] at small
        cases full with
        | inl full => omega
        | inr empty => exact here (List.isEmpty_iff.mp empty)
      · rw [not_or, Nat.not_le] at full
        cases found : search headTerminator (data ++ segment) with
        | some index =>
            simp only [Option.some.injEq, Prod.mk.injEq]
            constructor
            · intro received
              obtain ⟨rfl, rfl, rfl⟩ := received
              exact ⟨[], segment, rfl, by simp, by simpa using full.1, by simpa using missing, found⟩
            · intro received
              obtain ⟨front, last, layout, whole, -, absent, ended⟩ := received
              cases front with
              | nil =>
                  cases layout
                  rw [List.flatten_nil, List.append_nil] at whole
                  rw [whole, found] at ended
                  exact ⟨whole.symm, Option.some.inj ended, rfl⟩
              | cons first front =>
                  obtain ⟨rfl, -⟩ := List.cons.inj layout
                  rw [List.flatten_cons, ← List.append_assoc, search_append found] at absent
                  cases absent
        | none =>
            simp only
            rw [ih later found]
            constructor
            · intro received
              obtain ⟨front, last, rfl, whole, small, absent, ended⟩ := received
              exact ⟨segment :: front, last, rfl, by simpa using whole, by simpa using small,
                by simpa using absent, ended⟩
            · intro received
              obtain ⟨front, last, layout, whole, small, absent, ended⟩ := received
              cases front with
              | nil =>
                  cases layout
                  rw [List.flatten_nil, List.append_nil] at whole
                  rw [whole, found] at ended
                  cases ended
              | cons first front =>
                  obtain ⟨rfl, rfl⟩ := List.cons.inj layout
                  exact ⟨front, last, rfl, by simpa using whole, by simpa using small,
                    by simpa using absent, ended⟩

/-- The body is as long as announced where a segment ends there. -/
theorem receiveBody_eq_some (some_ : ∀ segment ∈ segments, segment ≠ []) :
    (receiveBody expected_length body segments = some all ∧ all.length = expected_length) ↔
      ∃ read rest, segments = read ++ rest ∧ all = body ++ read.flatten ∧
        all.length = expected_length := by
  induction segments generalizing body with
  | nil =>
      rw [receiveBody]
      constructor
      · intro received
        obtain ⟨received, enough⟩ := received
        split_ifs at received
        cases received
        exact ⟨[], [], rfl, by simp, enough⟩
      · intro received
        obtain ⟨read, rest, layout, rfl, enough⟩ := received
        obtain ⟨rfl, rfl⟩ := List.nil_eq_append_iff.mp layout
        rw [List.flatten_nil, List.append_nil] at enough ⊢
        exact ⟨if_neg (by omega), enough⟩
  | cons segment segments ih =>
      have here := List.length_pos_iff.mpr (some_ segment (List.mem_cons_self ..))
      have nonempty : ¬ segment.isEmpty = true := by
        simpa using some_ segment (List.mem_cons_self ..)
      rw [receiveBody]
      split_ifs with short
      · rw [ih fun other listed => some_ other (List.mem_cons_of_mem _ listed)]
        constructor
        · intro received
          obtain ⟨read, rest, rfl, whole, enough⟩ := received
          exact ⟨segment :: read, rest, rfl, by simpa using whole, enough⟩
        · intro received
          obtain ⟨read, rest, layout, whole, enough⟩ := received
          cases read with
          | nil =>
              rw [List.flatten_nil, List.append_nil] at whole
              rw [whole] at enough
              omega
          | cons first read =>
              obtain ⟨rfl, rfl⟩ := List.cons.inj layout
              exact ⟨read, rest, rfl, by simpa using whole, enough⟩
      · constructor
        · intro received
          obtain ⟨received, enough⟩ := received
          cases received
          exact ⟨[], segment :: segments, rfl, by simp, enough⟩
        · intro received
          obtain ⟨read, rest, layout, rfl, enough⟩ := received
          cases read with
          | nil =>
              rw [List.flatten_nil, List.append_nil] at enough ⊢
              exact ⟨rfl, enough⟩
          | cons first read =>
              obtain ⟨rfl, rfl⟩ := List.cons.inj layout
              rw [List.flatten_cons, List.length_append, List.length_append] at enough
              omega

end

/-! ## What is received -/

/-- The stream begins with a head of `size` bytes that can be read, and that announces
a body. -/
def Announces (stream : Text) (size expected_length : Nat) (request : HttpRequest) : Prop :=
  ∃ header_end, search headTerminator stream = some header_end ∧ size = header_end + 4 ∧
    readHead (stream.take header_end) = some request ∧ contentLength request = some expected_length

section

variable {stream : Text} {size expected_length : Nat} {request head : HttpRequest}

theorem Announces.unique {size_ expected_length_ : Nat} {head_ : HttpRequest}
    (announces : Announces stream size expected_length head)
    (announces_ : Announces stream size_ expected_length_ head_) :
    size = size_ ∧ expected_length = expected_length_ ∧ head = head_ := by
  obtain ⟨header_end, found, rfl, readable, announced⟩ := announces
  obtain ⟨header_end_, found_, rfl, readable_, announced_⟩ := announces_
  cases found.symm.trans found_
  cases readable.symm.trans readable_
  cases announced.symm.trans announced_
  exact ⟨rfl, rfl, rfl⟩

private theorem Announces.size_le (announces : Announces stream size expected_length head) :
    0 < size ∧ size ≤ stream.length := by
  obtain ⟨header_end, found, rfl, -, -⟩ := announces
  obtain ⟨within, stands, -⟩ := search_eq_some.mp found
  have length := stands.length_le
  have four : headTerminator.length = 4 := by decide
  rw [List.length_drop, four] at length
  omega

theorem length_headTerminator : headTerminator.length = 4 := by decide

/-- The first loop ends with the segment that completes the head. -/
theorem receiveHead_completes {segments rest : List Text} {data : Text} {header_end : Nat}
    (some_ : ∀ segment ∈ segments, segment ≠ []) :
    receiveHead [] segments = some (data, header_end, rest) ↔
      search headTerminator segments.flatten = some header_end ∧
        ∃ front segment, segments = front ++ segment :: rest ∧ data = front.flatten ++ segment ∧
          front.flatten.length < kMaximumRequestSize ∧ front.flatten.length < header_end + 4 ∧
          header_end + 4 ≤ front.flatten.length + segment.length := by
  rw [receiveHead_eq_some some_ (by decide)]
  simp only [List.nil_append]
  constructor
  · intro received
    obtain ⟨front, segment, rfl, rfl, small, absent, found⟩ := received
    have layout : (front ++ segment :: rest).flatten = front.flatten ++ segment ++ rest.flatten := by simp
    have located := @search_append _ _ rest.flatten _ found
    rw [← layout] at located
    have within := (search_eq_some.mp found).2.1.length_le
    have inside := (search_eq_some.mp found).1
    rw [List.length_drop, length_headTerminator, List.length_append] at within
    rw [List.length_append] at inside
    refine ⟨located, front, segment, rfl, rfl, small, ?_, by omega⟩
    by_contra early
    have taken := @search_take _ _ _ front.flatten.length located
    rw [layout, List.append_assoc, List.take_left, absent, length_headTerminator,
      if_pos (Nat.not_lt.mp early)] at taken
    cases taken
  · intro received
    obtain ⟨located, front, segment, rfl, rfl, small, late, complete⟩ := received
    have layout : (front ++ segment :: rest).flatten = front.flatten ++ segment ++ rest.flatten := by simp
    have before := @search_take _ _ _ front.flatten.length located
    have after := @search_take _ _ _ (front.flatten ++ segment).length located
    rw [layout, List.append_assoc, List.take_left, length_headTerminator,
      if_neg (Nat.not_le.mpr late)] at before
    rw [layout, List.take_left, length_headTerminator,
      if_pos (by rw [List.length_append]; exact complete)] at after
    exact ⟨front, segment, rfl, rfl, small, before, after⟩

/-- Head and body of the stream are in what has arrived. -/
theorem arrived_parts {arrived read rest : Text} {header_end expected_length : Nat}
    (inside : header_end + 4 ≤ arrived.length)
    (enough : (arrived.drop (header_end + 4) ++ read).length = expected_length) :
    (arrived ++ (read ++ rest)).take header_end = arrived.take header_end ∧
      ((arrived ++ (read ++ rest)).drop (header_end + 4)).take expected_length =
        arrived.drop (header_end + 4) ++ read := by
  constructor
  · exact List.take_append_of_le_length (by omega)
  · rw [List.drop_append_of_le_length inside, ← List.append_assoc]
    exact List.take_left' enough

/-- A request is received if its head is complete before too much has arrived, and a
segment ends where the request does. -/
theorem receiveRequest_eq_some (segmentation : Segmentation kReceiveBufferSize stream) :
    receiveRequest segmentation.segments = some request ↔
      ∃ size expected_length head, Announces stream size expected_length head ∧
        (∃ before < kMaximumRequestSize, CompletesAt segmentation.segments size before) ∧
        EndsAt segmentation.segments (size + expected_length) ∧
        request = { head with body := (stream.drop size).take expected_length } := by
  have whole := segmentation.whole
  have some_ : ∀ segment ∈ segmentation.segments, segment ≠ [] := fun segment listed =>
    (segmentation.sized segment listed).1
  generalize segmentation.segments = segments at whole some_ ⊢
  subst whole
  have later : ∀ {front : List Text} {segment : Text} {rest : List Text},
      segments = front ++ segment :: rest → ∀ other ∈ rest, other ≠ [] := by
    intro front segment rest layout other listed
    exact some_ other (layout ▸ List.mem_append_right _ (List.mem_cons_of_mem _ listed))
  have flattened : ∀ {front read last : List Text} {segment : Text},
      (front ++ segment :: (read ++ last)).flatten =
        (front.flatten ++ segment) ++ (read.flatten ++ last.flatten) := by simp
  unfold receiveRequest
  simp only [Option.bind_eq_bind, Option.bind_eq_some_iff, Prod.exists, Option.ite_none_left_eq_some,
    not_not, Option.pure_def, Option.some.injEq]
  constructor
  · intro received
    obtain ⟨data, header_end, rest, headed, head, readable, expected_length, announced, body, bodied,
      enough, rfl⟩ := received
    obtain ⟨located, front, segment, layout, rfl, small, late, complete⟩ :=
      (receiveHead_completes some_).mp headed
    obtain ⟨read, last, rfl, rfl, -⟩ := (receiveBody_eq_some (later layout)).mp ⟨bodied, enough⟩
    subst layout
    have inside : header_end + 4 ≤ (front.flatten ++ segment).length := by
      rw [List.length_append]
      exact complete
    obtain ⟨sameHead, sameBody⟩ := @arrived_parts _ _ last.flatten _ _ inside enough
    rw [← flattened] at sameHead sameBody
    rw [← sameHead] at readable
    rw [List.length_append, List.length_drop, List.length_append] at enough
    refine ⟨header_end + 4, expected_length, head, ⟨header_end, located, rfl, readable, announced⟩,
      ⟨front.flatten.length, small, front, segment, read ++ last, rfl, rfl, late, complete⟩,
      ⟨front ++ segment :: read, last, by simp, ?_⟩, by rw [sameBody]⟩
    rw [List.flatten_append, List.flatten_cons, List.length_append, List.length_append]
    omega
  · intro received
    obtain ⟨_, expected_length, head, ⟨header_end, located, rfl, readable, announced⟩,
      ⟨before, small, front, segment, rest, layout, rfl, late, complete⟩, ends, rfl⟩ := received
    subst layout
    obtain ⟨read, last, rfl, total⟩ := ends.split (by omega)
    have inside : header_end + 4 ≤ (front.flatten ++ segment).length := by
      rw [List.length_append]
      exact complete
    have enough : ((front.flatten ++ segment).drop (header_end + 4) ++ read.flatten).length =
        expected_length := by
      rw [List.flatten_append, List.flatten_cons, List.length_append, List.length_append] at total
      rw [List.length_append, List.length_drop, List.length_append]
      omega
    obtain ⟨sameHead, sameBody⟩ := @arrived_parts _ _ last.flatten _ _ inside enough
    rw [← flattened] at sameHead sameBody
    rw [sameHead] at readable
    have headed := (receiveHead_completes some_).mpr ⟨located, front, segment, rfl, rfl, small, late,
      complete⟩
    have bodied := (receiveBody_eq_some (later rfl)).mpr ⟨read, last, rfl, rfl, enough⟩
    exact ⟨_, header_end, _, headed, head, readable, expected_length, announced, _, bodied.1, enough,
      by rw [sameBody]⟩

/-! ## Segmentations of one stream -/

private theorem exists_parts {Item : Type} {items : List Item} {first last : Nat} (ordered : first ≤ last)
    (within : last ≤ items.length) : ∃ front middle back, items = front ++ (middle ++ back) ∧
      front.length = first ∧ middle.length = last - first := by
  refine ⟨items.take first, (items.drop first).take (last - first), (items.drop first).drop (last - first),
    ?_, ?_, ?_⟩
  · rw [List.take_append_drop, List.take_append_drop]
  · rw [List.length_take]
    omega
  · rw [List.length_take, List.length_drop]
    omega

/-- With a segment that completes the head, and others that end one by one, a request is received. -/
theorem exists_received (announces : Announces stream size expected_length head)
    (near : size < kMaximumRequestSize + kReceiveBufferSize)
    (present : size + expected_length ≤ stream.length) :
    ∃ segmentation : Segmentation kReceiveBufferSize stream, ∃ request,
      receiveRequest segmentation.segments = some request := by
  have positive := announces.size_le.1
  have sizes : kMaximumRequestSize = 1048576 ∧ kReceiveBufferSize = 4096 := ⟨rfl, rfl⟩
  obtain ⟨front, middle, back, layout, before, length⟩ :=
    @exists_parts _ stream (size - kReceiveBufferSize) size (Nat.sub_le _ _) (by omega)
  have some_ : middle ≠ [] := List.ne_nil_of_length_pos (by omega)
  cases layout
  have bounded : middle.length ≤ kReceiveBufferSize := by omega
  have total : front.length + middle.length = size := by omega
  have within : expected_length ≤ back.length := by
    rw [List.length_append, List.length_append] at present
    omega
  have completes := @completesAt_around _ _ front middle back some_ bounded
  have ends := @endsAt_around _ _ front middle back some_ bounded _ within
  rw [total] at completes ends
  exact ⟨.around front middle back some_ bounded, _, (receiveRequest_eq_some _).mpr
    ⟨size, expected_length, head, announces, ⟨front.length, by omega, completes⟩, ends, rfl⟩⟩

/-- A segment across the end of the request, or a head that comes byte by byte, is refused. -/
theorem exists_refused (announces : Announces stream size expected_length head)
    (disturbed : size + expected_length < stream.length ∨ kMaximumRequestSize < size) :
    ∃ segmentation : Segmentation kReceiveBufferSize stream,
      receiveRequest segmentation.segments = none := by
  have positive := announces.size_le.1
  cases disturbed with
  | inl more =>
      obtain ⟨front, middle, back, layout, before, length⟩ :=
        @exists_parts _ stream (size + expected_length - 1) (size + expected_length + 1) (by omega)
          (by omega)
      have some_ : middle ≠ [] := List.ne_nil_of_length_pos (by omega)
      have bounded : middle.length ≤ kReceiveBufferSize := by
        rw [length]
        exact Nat.le_trans (by omega : _ ≤ 2) (by decide)
      cases layout
      refine ⟨.around front middle back some_ bounded, Option.eq_none_iff_forall_ne_some.mpr ?_⟩
      intro request received
      obtain ⟨_, _, _, announced, -, ends, -⟩ := (receiveRequest_eq_some _).mp received
      obtain ⟨rfl, rfl, -⟩ := announces.unique announced
      exact not_endsAt_around (by omega) (by omega) ends
  | inr large =>
      refine ⟨.single stream (by decide), Option.eq_none_iff_forall_ne_some.mpr ?_⟩
      intro request received
      obtain ⟨_, _, _, announced, ⟨before, small, completes⟩, -, -⟩ :=
        (receiveRequest_eq_some _).mp received
      obtain ⟨rfl, -, -⟩ := announces.unique announced
      have last := completesAt_oneByOne completes
      omega

/-- However the stream is cut, the result is the same: there is no request, it is not
all there, its head is too long for any segmentation, or it is all there is. -/
theorem receiveRequest_agrees_iff (stream : Text) :
    (∀ first second : Segmentation kReceiveBufferSize stream,
      receiveRequest first.segments = receiveRequest second.segments) ↔
      ∀ size expected_length head, Announces stream size expected_length head →
        stream.length < size + expected_length ∨ kMaximumRequestSize + kReceiveBufferSize ≤ size ∨
          (stream.length = size + expected_length ∧ size ≤ kMaximumRequestSize) := by
  constructor
  · intro agree size expected_length head announces
    by_contra disturbed
    rw [not_or, not_or, Nat.not_lt, Nat.not_le] at disturbed
    obtain ⟨present, near, rest⟩ := disturbed
    obtain ⟨first, request, received⟩ := exists_received announces near present
    obtain ⟨second, refused⟩ := exists_refused announces (by omega)
    rw [agree first second, refused] at received
    cases received
  · intro settled first second
    have transfer : ∀ (first second : Segmentation kReceiveBufferSize stream) {request : HttpRequest},
        receiveRequest first.segments = some request → receiveRequest second.segments = some request := by
      intro first second request received
      obtain ⟨size, expected_length, head, announces, ⟨before, small, completes⟩, ends, rfl⟩ :=
        (receiveRequest_eq_some first).mp received
      have present := ends.length_le
      rw [first.whole] at present
      have reach := completes.le_add_limit
      have single : stream.length = size + expected_length ∧ size ≤ kMaximumRequestSize := by
        cases settled size expected_length head announces with
        | inl short => omega
        | inr rest =>
            cases rest with
            | inl far => omega
            | inr single => exact single
      obtain ⟨positive, within⟩ := announces.size_le
      obtain ⟨before_, completes_⟩ := @exists_completesAt _ second.segments size positive
        (by rw [second.whole]; exact within)
      have ended := endsAt_length second.segments
      rw [second.whole, single.1] at ended
      have missing : before_ < size := by
        obtain ⟨-, -, -, -, -, missing, -⟩ := completes_
        exact missing
      exact (receiveRequest_eq_some second).mpr ⟨size, expected_length, head, announces,
        ⟨before_, Nat.lt_of_lt_of_le missing single.2, completes_⟩, ended, rfl⟩
    apply Option.ext
    intro request
    exact ⟨transfer first second, transfer second first⟩

end

/-- A request and the first byte of the next one. -/
def pipelinedRequest : Text := ascii "GET / HTTP/1.1\r\n\r\n"

theorem pipelinedRequest_refused :
    ¬ ∀ (stream : Text) (first second : Segmentation kReceiveBufferSize stream),
      receiveRequest first.segments = receiveRequest second.segments := by
  intro agree
  let first : Segmentation kReceiveBufferSize (pipelinedRequest ++ ascii "G") :=
    ⟨[pipelinedRequest, ascii "G"], by decide, by decide⟩
  let second : Segmentation kReceiveBufferSize (pipelinedRequest ++ ascii "G") :=
    ⟨[pipelinedRequest ++ ascii "G"], by decide, by decide⟩
  have received : (receiveRequest [pipelinedRequest, ascii "G"]).isSome = true := by decide
  have refused : (receiveRequest [pipelinedRequest ++ ascii "G"]).isSome = false := by decide
  have same : receiveRequest [pipelinedRequest, ascii "G"] = receiveRequest [pipelinedRequest ++ ascii "G"] :=
    agree _ first second
  rw [same, refused] at received
  cases received

end DatagramTunneler
