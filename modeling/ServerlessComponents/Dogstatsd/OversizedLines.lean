import ServerlessComponents.Dogstatsd.NamedPipe

/-!
# Lines longer than the buffer of a named-pipe client

When the residue fills the buffer the loop drops it and starts over in the middle of the line, so
that the buffer holds the last bytes of the stream, as many as are left over after whole buffers of
the unfinished line. What comes before the newline is then sent as a line.

## Main results

* `PipeClient.linesComplete_iff` — which runs send complete lines only.
-/
namespace ServerlessComponents.Dogstatsd

open Framing (terminated residue)

namespace PipeClient

/-- The bytes of some reads. -/
def stream (reads : List (Bytes × TrySend)) : Bytes := reads.flatMap Prod.fst

@[simp]
theorem stream_concat (reads : List (Bytes × TrySend)) (read : Bytes × TrySend) :
    stream (reads ++ [read]) = stream reads ++ read.1 := by
  simp [stream]

/-- A client has gone through the given reads, each with the answer the queue had for its packet:
a read is not empty and fits the slice that was offered. -/
inductive Run (pipeName : String) (bufSize : Nat) : PipeClient → List (Bytes × TrySend) → Prop
  | start : Run pipeName bufSize (new bufSize) []
  | read {c c' : PipeClient} {reads : List (Bytes × TrySend)} {chunk : Bytes} {queue : TrySend}
      (before : Run pipeName bufSize c reads) (ne : chunk ≠ [])
      (fits : chunk.length ≤ c.offered.length)
      (turn : c.turn pipeName bufSize (.bytes chunk) queue = some c') :
      Run pipeName bufSize c' (reads ++ [(chunk, queue)])

/-- Where the first byte of the buffer stands in the stream. -/
def position (c : PipeClient) (stream : Bytes) : Nat := stream.length - c.startWriteIndex

theorem position_le (c : PipeClient) (stream : Bytes) : c.position stream ≤ stream.length :=
  Nat.sub_le ..

/-- Every line in a packet that a read of the run sends is a complete line of the stream. -/
def LinesComplete (pipeName : String) (bufSize : Nat) (reads : List (Bytes × TrySend)) : Prop :=
  ∀ before chunk queue after, reads = before ++ (chunk, queue) :: after →
    ∀ c c', Run pipeName bufSize c before → c.turn pipeName bufSize (.bytes chunk) queue = some c' →
      ∀ packet, c'.sent = c.sent ++ [packet] → ∀ offset line,
        Framing.LineAt newline packet.data offset line →
          Framing.LineAt newline (stream before ++ chunk) (c.position (stream before) + offset) line

/-- A read whose packet is put on the queue does not end a line that is as long as the buffer
without its newline. -/
def EndsShortLines (bufSize : Nat) (reads : List (Bytes × TrySend)) : Prop :=
  ∀ before chunk after, reads = before ++ (chunk, .ok) :: after → newline ∈ chunk →
    (residue newline (stream before) ++ chunk.takeWhile (· ≠ newline)).length < bufSize

/-! ## What is kept -/

/-- The buffer starts with the last bytes of the stream, as many as the unfinished line leaves over
after whole buffers. -/
structure Kept (bufSize : Nat) (c : PipeClient) (stream : Bytes) : Prop where
  length : c.buf.length = bufSize
  room : c.startWriteIndex < bufSize
  start : c.startWriteIndex = (residue newline stream).length % bufSize
  bytes : c.buf.take c.startWriteIndex = stream.drop (c.position stream)

theorem new_kept {bufSize : Nat} (positive : 0 < bufSize) : (new bufSize).Kept bufSize [] where
  length := by simp [new]
  room := positive
  start := by simp [new]
  bytes := by simp [new]

namespace Kept

variable {pipeName : String} {bufSize : Nat} {c c' : PipeClient} {stream chunk : Bytes}
  {queue : TrySend}

theorem startWriteIndex_le (kept : c.Kept bufSize stream) : c.startWriteIndex ≤ c.buf.length := by
  rw [kept.length]
  exact kept.room.le

theorem startWriteIndex_le_residue (kept : c.Kept bufSize stream) :
    c.startWriteIndex ≤ (residue newline stream).length := by
  rw [kept.start]
  exact Nat.mod_le ..

theorem offered_length (kept : c.Kept bufSize stream) :
    c.offered.length = bufSize - c.startWriteIndex := by
  rw [offered, List.length_drop, kept.length]

/-- The window is the end of the stream. -/
theorem window_eq (kept : c.Kept bufSize stream) (chunk : Bytes) :
    c.window chunk = (stream ++ chunk).drop (c.position stream) := by
  rw [window, kept.bytes, List.drop_append_of_le_length (c.position_le stream)]

theorem not_mem_drop_position (kept : c.Kept bufSize stream) :
    newline ∉ stream.drop (c.position stream) := by
  intro mem
  have lengths := Framing.length_terminated_add_residue (d := newline) stream
  have le := kept.startWriteIndex_le_residue
  have part : stream.drop (c.position stream) <:+ residue newline stream := by
    refine List.suffix_of_suffix_length_le (List.drop_suffix ..) (List.rtakeWhile_suffix ..) ?_
    rw [List.length_drop, position]
    omega
  exact Framing.not_mem_residue stream (part.subset mem)

/-- There is no newline in what is kept. -/
theorem mem_window_iff (kept : c.Kept bufSize stream) :
    newline ∈ c.window chunk ↔ newline ∈ chunk := by
  rw [window, kept.bytes, List.mem_append, or_iff_right kept.not_mem_drop_position]

/-- Up to whole buffers, the window has the whole unfinished line. -/
theorem residue_window_mod (kept : c.Kept bufSize stream) (chunk : Bytes) :
    (residue newline (stream ++ chunk)).length % bufSize =
      (residue newline (c.window chunk)).length % bufSize := by
  by_cases mem : newline ∈ chunk
  · rw [window, Framing.residue_append_of_mem mem, Framing.residue_append_of_mem mem]
  · have whole := Framing.residue_eq_self (kept.mem_window_iff.not.2 mem)
    rw [whole, length_window kept.startWriteIndex_le, Framing.residue_append_of_not_mem mem,
      List.length_append, kept.start, Nat.mod_add_mod]

/-- The last bytes of a stream, as its suffix of that length. -/
theorem bytes_of_suffix {c : PipeClient} {part stream : Bytes} (suffix : part <:+ stream)
    (taken : c.buf.take c.startWriteIndex = part) (length : part.length = c.startWriteIndex) :
    c.buf.take c.startWriteIndex = stream.drop (c.position stream) := by
  rw [taken, position, ← length]
  exact List.suffix_iff_eq_drop.1 suffix

/-- One turn keeps the invariant, whatever the queue answers. -/
theorem turn (kept : c.Kept bufSize stream) (fits : chunk.length ≤ c.offered.length)
    (turn : c.turn pipeName bufSize (.bytes chunk) queue = some c') :
    c'.Kept bufSize (stream ++ chunk) := by
  obtain ⟨sent, dropped, rfl, -⟩ := turn_eq_some kept.startWriteIndex_le turn
  rw [kept.offered_length] at fits
  have room := kept.room
  have filled : (c.fillBuf chunk).length = bufSize := by
    rw [← kept.length]
    exact fillBuf_length (by rw [kept.offered_length]; exact fits) kept.startWriteIndex_le
  have lengths := Framing.length_terminated_add_residue (d := newline) (c.window chunk)
  rw [length_window kept.startWriteIndex_le] at lengths
  have start : c.startWriteIndex + chunk.length - (terminated newline (c.window chunk)).length =
      (residue newline (c.window chunk)).length := by omega
  have suffix : residue newline (c.window chunk) <:+ stream ++ chunk := by
    have whole := kept.window_eq chunk ▸ List.drop_suffix (c.position stream) (stream ++ chunk)
    exact (List.rtakeWhile_suffix _ _).trans whole
  have moved : ((c.fillBuf chunk).take (c.startWriteIndex + chunk.length)).drop
      (terminated newline (c.window chunk)).length = residue newline (c.window chunk) := by
    rw [fillBuf_take kept.startWriteIndex_le, Framing.drop_terminated]
  have mod := kept.residue_window_mod chunk
  simp only [keepResidue, start, moved]
  by_cases full : (residue newline (c.window chunk)).length ≥ bufSize
  · -- nothing but the unfinished line is in the buffer, and it is dropped
    have whole : (residue newline (c.window chunk)).length = bufSize := by omega
    rw [if_pos full]
    rw [whole, Nat.mod_self] at mod
    exact ⟨filled, (Nat.zero_le _).trans_lt room, mod.symm, by simp [position]⟩
  rw [if_neg full]
  rw [Nat.mod_eq_of_lt (Nat.not_le.1 full)] at mod
  by_cases some : (residue newline (c.window chunk)).length > 0
  · rw [if_pos some]
    refine ⟨?_, Nat.not_le.1 full, mod.symm, bytes_of_suffix suffix (List.take_left' rfl) rfl⟩
    rw [List.length_append, List.length_drop, filled]
    omega
  · rw [if_neg some]
    have empty : (residue newline (c.window chunk)).length = 0 := Nat.eq_zero_of_not_pos some
    refine ⟨filled, Nat.not_le.1 full, mod.symm, ?_⟩
    simp [position, empty]

/-- The window starts a line of the stream if less than a buffer of the line was read before. -/
theorem ends_take_position_iff (kept : c.Kept bufSize stream) :
    Framing.Ends newline (stream.take (c.position stream)) ↔
      (residue newline stream).length < bufSize := by
  constructor
  · intro ends
    have split := (Framing.split_unique ends kept.not_mem_drop_position).2
    rw [List.take_append_drop] at split
    have le := kept.startWriteIndex_le_residue
    have lengths := Framing.length_terminated_add_residue (d := newline) stream
    have length := congrArg List.length split
    rw [List.length_drop, position] at length
    have room := kept.room
    omega
  · intro short
    have start : c.startWriteIndex = (residue newline stream).length :=
      kept.start.trans (Nat.mod_eq_of_lt short)
    have lengths := Framing.length_terminated_add_residue (d := newline) stream
    have part : stream.take (c.position stream) = terminated newline stream := by
      rw [position, start, show stream.length - (residue newline stream).length =
        (terminated newline stream).length by omega, Framing.take_terminated]
    rw [part]
    exact Framing.ends_terminated stream

theorem sent_turn (kept : c.Kept bufSize stream)
    (turn : c.turn pipeName bufSize (.bytes chunk) queue = some c') :
    c'.sent = if queue = .ok ∧ newline ∈ chunk then c.sent ++ [packetOf pipeName (c.window chunk)]
      else c.sent := by
  obtain ⟨sent, dropped, rfl, sent_eq⟩ := turn_eq_some kept.startWriteIndex_le turn
  rw [sent_keepResidue, sent_eq]
  simp only [kept.mem_window_iff]

/-- What is read before the newline leaves room for it. -/
theorem short_line_iff (kept : c.Kept bufSize stream) (fits : chunk.length ≤ c.offered.length)
    (mem : newline ∈ chunk) :
    (residue newline stream).length < bufSize ↔
      (residue newline stream ++ chunk.takeWhile (· ≠ newline)).length < bufSize := by
  rw [List.length_append]
  refine ⟨fun short => ?_, fun short => by omega⟩
  obtain ⟨content, rest, rfl, none⟩ := List.eq_append_cons_of_mem mem
  have line : (content ++ newline :: rest).takeWhile (· ≠ newline) = content := by
    have all : ∀ b ∈ content, decide (b ≠ newline) = true := fun b of_content =>
      decide_eq_true fun eq => none (eq ▸ of_content)
    rw [List.takeWhile_append_of_pos all, List.takeWhile_cons_of_neg (by simp), List.append_nil]
  have start := kept.start.trans (Nat.mod_eq_of_lt short)
  rw [kept.offered_length, List.length_append, List.length_cons] at fits
  rw [line]
  omega

/-- The packet of a read has complete lines only if the line that ends first in the read is
shorter than the buffer. -/
theorem packet_complete_iff (kept : c.Kept bufSize stream)
    (fits : chunk.length ≤ c.offered.length) (mem : newline ∈ chunk) :
    (∀ offset line, Framing.LineAt newline (terminated newline (c.window chunk)) offset line →
        Framing.LineAt newline (stream ++ chunk) (c.position stream + offset) line) ↔
      (residue newline stream ++ chunk.takeWhile (· ≠ newline)).length < bufSize := by
  have whole : stream ++ chunk = stream.take (c.position stream) ++
      terminated newline (c.window chunk) ++ residue newline (c.window chunk) := by
    rw [List.append_assoc, Framing.terminated_append_residue, kept.window_eq,
      ← List.take_append_of_le_length (c.position_le stream), List.take_append_drop]
  have before : (stream.take (c.position stream)).length = c.position stream := by
    rw [List.length_take, Nat.min_eq_left (c.position_le stream)]
  have ne : terminated newline (c.window chunk) ≠ [] := fun empty =>
    Framing.terminated_eq_nil_iff.1 empty (kept.mem_window_iff.2 mem)
  have starts := Framing.lineAt_part_iff (stream.take (c.position stream))
    (residue newline (c.window chunk)) ne (Framing.ends_terminated _)
  rw [← whole, before] at starts
  rw [starts, kept.ends_take_position_iff, kept.short_line_iff fits mem]

end Kept

/-! ## Runs -/

section Runs

variable {pipeName : String} {bufSize : Nat} {c c' : PipeClient} {reads : List (Bytes × TrySend)}

/-- Nothing is read into a buffer without room. -/
theorem Run.eq_nil (run : Run pipeName 0 c reads) : c = new 0 ∧ reads = [] := by
  induction run with
  | start => exact ⟨rfl, rfl⟩
  | read before ne fits turn ih =>
    rw [ih.1] at fits
    exact absurd (List.length_eq_zero_iff.1 (Nat.eq_zero_of_le_zero fits)) ne

theorem Run.kept (positive : 0 < bufSize) (run : Run pipeName bufSize c reads) :
    c.Kept bufSize (stream reads) := by
  induction run with
  | start => exact new_kept positive
  | read before ne fits turn ih =>
    rw [stream_concat]
    exact ih.turn fits turn

/-- Each read of a run is a turn of a client that has gone through the reads before it. -/
theorem Run.at (run : Run pipeName bufSize c reads) {before after : List (Bytes × TrySend)}
    {chunk : Bytes} {queue : TrySend} (split : reads = before ++ (chunk, queue) :: after) :
    ∃ c₀ c₁, Run pipeName bufSize c₀ before ∧ chunk.length ≤ c₀.offered.length ∧
      c₀.turn pipeName bufSize (.bytes chunk) queue = some c₁ := by
  induction run generalizing after with
  | start => simp at split
  | read earlier ne fits turn ih =>
    rcases List.eq_nil_or_concat after with rfl | ⟨after, last, rfl⟩
    · obtain ⟨rfl, same⟩ := List.append_inj' split rfl
      obtain ⟨rfl, rfl⟩ : _ ∧ _ := by simpa using same
      exact ⟨_, _, earlier, fits, turn⟩
    · rw [List.concat_eq_append, ← List.cons_append, ← List.append_assoc] at split
      exact ih (List.append_inj' split rfl).1

/-- A run sends complete lines only exactly if each line that ends first in a read whose packet the
queue takes is shorter than the buffer. -/
theorem linesComplete_iff (run : Run pipeName bufSize c reads) :
    LinesComplete pipeName bufSize reads ↔ EndsShortLines bufSize reads := by
  rcases Nat.eq_zero_or_pos bufSize with rfl | positive
  · obtain ⟨-, rfl⟩ := run.eq_nil
    exact iff_of_true (fun _ _ _ _ split => by simp at split) fun _ _ _ split => by simp at split
  constructor
  · intro complete before chunk after split mem
    obtain ⟨c₀, c₁, run₀, fits, turn⟩ := run.at split
    have kept := run₀.kept positive
    have sent := kept.sent_turn turn
    rw [if_pos ⟨rfl, mem⟩] at sent
    have lines := complete before chunk .ok after split c₀ c₁ run₀ turn _ sent
    rw [data_packetOf] at lines
    exact (kept.packet_complete_iff fits mem).1 lines
  · intro short before chunk queue after split c₁ c₂ run₁ turn packet sent
    obtain ⟨c₀, _, run₀, fits, _⟩ := run.at split
    have kept := run₁.kept positive
    have fits₁ : chunk.length ≤ c₁.offered.length := by
      rwa [kept.offered_length, kept.start, ← (run₀.kept positive).start,
        ← (run₀.kept positive).offered_length]
    rw [kept.sent_turn turn] at sent
    split_ifs at sent with taken
    · obtain ⟨rfl, mem⟩ := taken
      obtain rfl : packetOf pipeName (c₁.window chunk) = packet := by simpa using sent
      rw [data_packetOf]
      exact (kept.packet_complete_iff fits₁ mem).2 (short before chunk after split mem)
    · simp at sent

/-- A line that ends in a second read. -/
theorem linesComplete_two :
    LinesComplete "pipe" 4 [([97, 10, 98], .ok), ([99, 10], .ok)] := by
  have one : Run "pipe" 4 _ ([] ++ [([97, 10, 98], .ok)]) :=
    .read .start (by decide) (by decide) rfl
  have two : Run "pipe" 4 _ ([] ++ [([97, 10, 98], .ok)] ++ [([99, 10], .ok)]) :=
    .read one (by decide) (by decide) rfl
  refine (linesComplete_iff two).2 fun before chunk after split mem => ?_
  rcases before with _ | ⟨first, _ | ⟨second, more⟩⟩
  · obtain ⟨rfl, rfl⟩ : [97, 10, 98] = chunk ∧ [([99, 10], .ok)] = after := by simpa using split
    decide
  · obtain ⟨rfl, rfl, rfl⟩ : ([97, 10, 98], .ok) = first ∧ [99, 10] = chunk ∧ [] = after := by
      simpa using split
    decide
  · simp at split

/-- The newline of a line of five bytes in a buffer of four: the fifth byte is sent as a line. -/
theorem tail_of_long_line_sent :
    (∃ c, Run "pipe" 4 c [([97, 97, 97, 97], .ok), ([98, 10], .ok)] ∧
      c.sent.map Packet.data = [[98, 10]]) ∧
    ¬LinesComplete "pipe" 4 [([97, 97, 97, 97], .ok), ([98, 10], .ok)] := by
  have one : Run "pipe" 4 _ ([] ++ [([97, 97, 97, 97], .ok)]) :=
    .read .start (by decide) (by decide) rfl
  have two : Run "pipe" 4 _ ([] ++ [([97, 97, 97, 97], .ok)] ++ [([98, 10], .ok)]) :=
    .read one (by decide) (by decide) rfl
  refine ⟨⟨_, two, by decide⟩, fun complete => ?_⟩
  have line : Framing.LineAt newline [98, 10] 0 [98, 10] :=
    ⟨[], [98], [], rfl, rfl, fun h => absurd rfl h, by decide, rfl⟩
  obtain ⟨before, content, after, whole, length, ends, _, _⟩ :=
    complete [([97, 97, 97, 97], .ok)] [98, 10] .ok [] rfl _ _ one rfl _ rfl 0 [98, 10] line
  rw [List.append_assoc] at whole
  have four : [97, 97, 97, 97] = before := List.append_inj_left whole length.symm
  subst four
  exact absurd (ends (by decide)) (by decide)

end Runs

end PipeClient

end ServerlessComponents.Dogstatsd
