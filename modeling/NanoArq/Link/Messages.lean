import NanoArq.Receiver.Reassembly
import NanoArq.Sender.Queue

/-!
# The messages of a sender

The bytes that a sender accepts are a sequence of messages: those that have left the send window, and
the ones that the window cuts from its content. `messageAt` is this sequence, which goes on without
end as the receive window wants it.

* `messages_retire`: a message that leaves the window stays what it was.
* `concat_messages`: the first messages are the beginning of the accepted bytes.
-/

namespace NanoArq

open Lib

/-! ## Chunks of a list -/

section

variable {α : Type*} {L r i : Nat} {xs c : List α}

def chunks (L : Nat) (xs : List α) : List (List α) := (List.range (segCount L xs.length)).map (chunk L xs)

@[simp] theorem length_chunks (L : Nat) (xs : List α) : (chunks L xs).length = segCount L xs.length := by
  simp [chunks]

theorem getElem?_chunks (hi : i < segCount L xs.length) : (chunks L xs)[i]? = some (chunk L xs i) := by
  simp [chunks, List.getElem?_range hi]

theorem flatten_chunks (hL : 0 < L) (xs : List α) : (chunks L xs).flatten = xs := by
  have hall := flatMap_chunks xs L (segCount L xs.length)
  rw [List.take_of_length_le ((segCount_le hL).mp le_rfl), List.flatMap_def] at hall
  exact hall

theorem chunk_drop (L : Nat) (xs : List α) (r i : Nat) :
    chunk L (xs.drop (r * L)) i = chunk L xs (r + i) := by
  rw [chunk, chunk, List.drop_drop, Nat.add_mul]

theorem chunks_drop (hL : 0 < L) (xs : List α) (r : Nat) :
    chunks L (xs.drop (r * L)) = (chunks L xs).drop r := by
  have hcount : segCount L (xs.drop (r * L)).length = segCount L xs.length - r := by
    rw [List.length_drop, segCount_sub hL]
  apply List.ext_getElem?
  intro i
  rw [List.getElem?_drop]
  by_cases hi : i < segCount L xs.length - r
  · rw [getElem?_chunks (hcount ▸ hi), getElem?_chunks (by omega), chunk_drop]
  · rw [List.getElem?_eq_none (by rw [length_chunks, hcount]; omega),
      List.getElem?_eq_none (by rw [length_chunks]; omega)]

theorem mem_chunks (hL : 0 < L) (hc : c ∈ chunks L xs) : 0 < c.length ∧ c.length ≤ L := by
  obtain ⟨i, hi, rfl⟩ := List.mem_map.mp hc
  have hlt := (lt_segCount hL).mp (List.mem_range.mp hi)
  rw [length_chunk, chunkLen]
  omega

end

/-! ## Dimensions -/

/-- The receive window that takes the messages of a send window. -/
def Dims.recv (d : Dims) (hcap : d.cap ≤ 2048) : RecvDims where
  cap := d.cap
  segs := d.segs
  segLen := d.segLen
  cap_pos := d.cap_pos
  cap_le := hcap
  cap_dvd := d.cap_dvd
  segs_pos := d.segs_pos
  segLen_pos := d.segLen_pos
  fits := d.fits

theorem Dims.msgFits (d : Dims) (hcap : d.cap ≤ 2048) {xs : List UInt8} (hpos : 0 < xs.length)
    (hle : xs.length ≤ d.msgLen) : MsgFits (d.recv hcap) xs := by
  refine ⟨hpos, hle, ?_⟩
  have hsegs := d.segs_le
  have hcount : segCount d.segLen xs.length ≤ d.segs := (segCount_le d.segLen_pos).mpr hle
  exact hcount.trans hsegs

/-! ## The sequence -/

/-- The messages of a sender: the ones that have left its window, and those in its window. -/
def messages (d : Dims) (past : List (List UInt8)) (content : List UInt8) : List (List UInt8) :=
  past ++ chunks d.msgLen content

/-- Message `k`. A message that does not exist yet is any one. -/
def messageAt (d : Dims) (past : List (List UInt8)) (content : List UInt8) (k : Nat) : List UInt8 :=
  (messages d past content)[k]?.getD [0]

section

variable {d : Dims} {past : List (List UInt8)} {content : List UInt8} {r k e i : Nat}

/-- A message that leaves the window stays what it was. -/
theorem messages_retire (d : Dims) (past : List (List UInt8)) (content : List UInt8) (r : Nat) :
    messages d (past ++ (chunks d.msgLen content).take r) (content.drop (r * d.msgLen)) =
      messages d past content := by
  rw [messages, messages, chunks_drop d.msgLen_pos, List.append_assoc, List.take_append_drop]

theorem messages_flatten (d : Dims) (past : List (List UInt8)) (content : List UInt8) :
    (messages d past content).flatten = past.flatten ++ content := by
  rw [messages, List.flatten_append, flatten_chunks d.msgLen_pos]

theorem length_messages (d : Dims) (past : List (List UInt8)) (content : List UInt8) :
    (messages d past content).length = past.length + segCount d.msgLen content.length := by
  rw [messages, List.length_append, length_chunks]

/-- The messages in the window. -/
theorem messageAt_window (hi : i < segCount d.msgLen content.length) :
    messageAt d past content (past.length + i) = chunk d.msgLen content i := by
  rw [messageAt, messages, List.getElem?_append_right (Nat.le_add_right _ _), Nat.add_sub_cancel_left,
    getElem?_chunks hi, Option.getD_some]

theorem messageAt_past (hk : k < past.length) (content' : List UInt8) :
    messageAt d past content' k = messageAt d past content k := by
  rw [messageAt, messageAt, messages, messages, List.getElem?_append_left hk,
    List.getElem?_append_left hk]

theorem messageAt_fits (hcap : d.cap ≤ 2048) (hpast : ∀ xs ∈ past, 0 < xs.length ∧ xs.length ≤ d.msgLen)
    (k : Nat) : MsgFits (d.recv hcap) (messageAt d past content k) := by
  have hmem : ∀ xs ∈ messages d past content, 0 < xs.length ∧ xs.length ≤ d.msgLen := by
    intro xs hxs
    rcases List.mem_append.mp hxs with hold | hnew
    · exact hpast xs hold
    · exact mem_chunks d.msgLen_pos hnew
  unfold messageAt
  cases hget : (messages d past content)[k]? with
  | none => exact d.msgFits hcap Nat.one_pos d.msgLen_pos
  | some xs =>
    obtain ⟨hpos, hle⟩ := hmem xs (List.mem_of_getElem? hget)
    exact d.msgFits hcap hpos hle

theorem concat_messages_take (he : e ≤ (messages d past content).length) :
    concat (messageAt d past content) e = ((messages d past content).take e).flatten := by
  induction e with
  | zero => rfl
  | succ e ih =>
    rw [concat_succ, ih (by omega), List.take_add_one, List.flatten_append, messageAt,
      List.getElem?_eq_getElem (show e < (messages d past content).length by omega)]
    simp

/-- The first messages are the beginning of the accepted bytes. -/
theorem concat_messages (he : e ≤ (messages d past content).length) :
    concat (messageAt d past content) e <+: past.flatten ++ content := by
  rw [concat_messages_take he, ← messages_flatten]
  obtain ⟨rest, hrest⟩ := List.take_prefix e (messages d past content)
  rw [← hrest, List.flatten_append, hrest]
  exact List.prefix_append _ _

/-- The messages that have left the window. -/
theorem concat_past (d : Dims) (past : List (List UInt8)) (content : List UInt8) :
    concat (messageAt d past content) past.length = past.flatten := by
  rw [concat_messages_take (by rw [length_messages]; omega), messages, List.take_left]

end

end NanoArq
