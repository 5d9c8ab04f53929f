import DatagramTunneler.Foundation.Fallible
import DatagramTunneler.Foundation.WebSocket
import DatagramTunneler.Control.WebSocketFrames

/-! What a client reads of the frames that were sent whole. -/

set_option autoImplicit false

namespace DatagramTunneler

open Foundation

variable {text data : Text} {results : List Int}

/-- The results of `send` for the frame of a text: positive counts that make up the frame. -/
structure Splits (text : Text) (results : List Int) : Prop where
  positive : ∀ result ∈ results, 0 < result
  whole : ∀ frame, webSocketFrame text = some frame → results.sum = frame.length

private theorem sum_nonneg_of_positive (positive : ∀ result ∈ results, 0 < result) : 0 ≤ results.sum := by
  induction results with
  | nil => exact Int.le_refl 0
  | cons result results ih =>
      have here := positive result List.mem_cons_self
      have rest := ih fun other inside => positive other (List.mem_cons_of_mem _ inside)
      rw [List.sum_cons]
      omega

/-- Partial writes add up to the data. -/
theorem sendAll_of_positive (positive : ∀ result ∈ results, 0 < result)
    (whole : results.sum = data.length) : sendAll data results = some ⟨data, true⟩ := by
  induction results generalizing data with
  | nil =>
      have empty : data = [] := List.eq_nil_of_length_eq_zero (Int.ofNat_inj.mp whole.symm)
      rw [empty]
      rfl
  | cons result results ih =>
      have here := positive result List.mem_cons_self
      have later := fun other inside => positive other (List.mem_cons_of_mem result inside)
      have rest := sum_nonneg_of_positive later
      rw [List.sum_cons] at whole
      have some_ : data.isEmpty = false := by
        cases data with
        | nil =>
            rw [List.length_nil] at whole
            omega
        | cons byte data => rfl
      have left : results.sum = (data.drop result.toNat).length := by
        rw [List.length_drop]
        omega
      rw [sendAll, some_, if_neg Bool.false_ne_true, if_neg (Int.not_le.mpr here), ih later left,
        Option.map_some, List.take_append_drop]

private theorem ofNat_and_255 (value : Nat) : UInt8.ofNat (value &&& 0xff) = UInt8.ofNat value := by
  have low : value &&& 0xff = value % 256 := Nat.and_two_pow_sub_one_eq_mod value 8
  apply UInt8.toNat_inj.mp
  rw [low, UInt8.toNat_ofNat', UInt8.toNat_ofNat', Nat.mod_mod]

theorem webSocketFrame_eq_write (short : text.length ≤ 65535) :
    webSocketFrame text = some (WebSocketFrame.write 1 text) := by
  unfold webSocketFrame WebSocketFrame.write WebSocketFrame.lengthField
  rw [if_neg (Nat.not_lt.mpr short)]
  split
  · rfl
  · rw [if_pos (Nat.lt_succ_of_le short), ofNat_and_255, ofNat_and_255, Nat.shiftRight_eq_div_pow]
    rfl

private theorem sendWebSocketText_of_splits (short : text.length ≤ 65535) (splits : Splits text results) :
    sendWebSocketText text results = some ⟨WebSocketFrame.write 1 text, true⟩ := by
  have frame := webSocketFrame_eq_write short
  rw [sendWebSocketText, frame]
  exact sendAll_of_positive splits.positive (splits.whole _ frame)

theorem reads_text (short : text.length ≤ 65535) :
    WebSocketFrame.Reads (WebSocketFrame.write 1 text) (.final 1 text) ∧
      (WebSocketFrame.final 1 text).Allowed :=
  ⟨WebSocketFrame.reads_write (by decide) (by omega), WebSocketFrame.allowed_final (by decide) text⟩

/-- However `send` splits the frames, a client reads the texts that were sent, in their
order and each in a text frame of its own; of a text that is too long nothing is sent. -/
theorem readFrames_sendWebSocketText (calls : List (Text × List Int))
    (short : ∀ call ∈ calls, call.1.length ≤ 65535) (splits : ∀ call ∈ calls, Splits call.1 call.2) :
    (∃ sents, calls.mapM (fun call => sendWebSocketText call.1 call.2) = some sents ∧
      (∀ sent ∈ sents, sent.complete = true) ∧
      WebSocketFrame.readFrames (sents.flatMap Sent.accepted) =
        some (calls.map fun call => .final 1 call.1)) ∧
    ∀ text results, 65535 < text.length → sendWebSocketText text results = some ⟨[], false⟩ := by
  refine ⟨⟨calls.map fun call => ⟨WebSocketFrame.write 1 call.1, true⟩, ?_, ?_, ?_⟩, ?_⟩
  · exact mapM_of_eq_some fun call inside =>
      sendWebSocketText_of_splits (short call inside) (splits call inside)
  · intro sent inside
    obtain ⟨call, -, rfl⟩ := List.mem_map.mp inside
    rfl
  · rw [List.flatMap_map]
    exact WebSocketFrame.readFrames_flatMap fun call inside => reads_text (short call inside)
  · intro text results long
    rw [sendWebSocketText, webSocketFrame, if_pos long]

/-- Three frames, the first one with a length of two bytes more and in three parts. -/
def threeCalls : List (Text × List Int) :=
  [(List.replicate 200 (byteOf 'a'), [1, 199, 4]), (ascii "\x7b\x7d", [4]), ([], [1, 1])]

theorem readFrames_sendWebSocketText_three : ∃ sents,
    threeCalls.mapM (fun call => sendWebSocketText call.1 call.2) = some sents ∧
    (∀ sent ∈ sents, sent.complete = true) ∧
    WebSocketFrame.readFrames (sents.flatMap Sent.accepted) =
      some (threeCalls.map fun call => .final 1 call.1) := by
  have long : (List.replicate 200 (byteOf 'a')).length = 200 := List.length_replicate
  have short : ∀ call ∈ threeCalls, call.1.length ≤ 65535 := by
    intro call inside
    simp only [threeCalls, List.mem_cons, List.not_mem_nil, or_false] at inside
    rcases inside with rfl | rfl | rfl
    · exact (Nat.le_of_eq long).trans (by decide)
    · decide
    · decide
  have splits : ∀ call ∈ threeCalls, Splits call.1 call.2 := by
    intro call inside
    have written := webSocketFrame_eq_write (short call inside)
    simp only [threeCalls, List.mem_cons, List.not_mem_nil, or_false] at inside
    rcases inside with rfl | rfl | rfl
    · refine ⟨by decide, fun frame same => ?_⟩
      cases written.symm.trans same
      simp only [WebSocketFrame.write, WebSocketFrame.lengthField, List.length_append, long]
      decide
    · exact ⟨by decide, fun frame same => by cases same; decide⟩
    · exact ⟨by decide, fun frame same => by cases same; decide⟩
  exact (readFrames_sendWebSocketText threeCalls short splits).1

end DatagramTunneler
