import ServerlessComponents.Library.Framing
import ServerlessComponents.Dogstatsd.Packet

/-!
# The named-pipe client loop

`run_named_pipe_server` of `dogstatsd.rs` spawns one such loop per client. The pipe is a byte
stream, so the loop cuts it at newlines: it sends everything up to the last newline it has read
and keeps the rest at the start of its buffer for the next read.
-/
namespace ServerlessComponents.Dogstatsd

open Framing (terminated residue)

/-- The locals of a client's loop, with the packets it has put on the queue so far. -/
structure PipeClient where
  buf : Bytes
  startWriteIndex : Nat
  dropped : Nat
  sent : List Packet
  deriving DecidableEq, Repr

/-- How one `server.read` on the rest of the buffer ends. -/
inductive PipeRead where
  | cancelled
  | error
  | disconnected
  | bytes (chunk : Bytes)
  deriving DecidableEq, Repr

namespace PipeClient

def new (bufSize : Nat) : PipeClient := ⟨List.replicate bufSize 0, 0, 0, []⟩

/-- The slice the next read may fill, `&mut buf[start_write_index..]`. -/
def offered (c : PipeClient) : Bytes := c.buf.drop c.startWriteIndex

/-- What a read leaves in the buffer. -/
def fillBuf (c : PipeClient) (chunk : Bytes) : Bytes :=
  c.buf.take c.startWriteIndex ++ chunk ++ c.buf.drop (c.startWriteIndex + chunk.length)

/-- From the start of the buffer to the end of the last complete message. -/
def completeMessageSize (buf : Bytes) (endIndex : Nat) : Nat :=
  ((Framing.rposition (· = newline) (buf.take endIndex)).map (· + 1)).getD 0

/-- The end of the loop body: the residue moves to the start of the buffer, or is dropped when it
fills the whole buffer. -/
def keepResidue (c : PipeClient) (bufSize endIndex complete : Nat) : PipeClient :=
  let start := endIndex - complete
  if start ≥ bufSize then { c with startWriteIndex := 0 }
  else if start > 0 then
    { c with
      startWriteIndex := start
      buf := (c.buf.take endIndex).drop complete ++ c.buf.drop start }
  else { c with startWriteIndex := start }

/-- One turn of the loop with the answer of the queue; `none` when the loop ends. -/
def turn (pipeName : String) (bufSize : Nat) (c : PipeClient) (read : PipeRead)
    (queue : TrySend) : Option PipeClient :=
  match read with
  | .cancelled | .error | .disconnected => none
  | .bytes chunk =>
    let endIndex := c.startWriteIndex + chunk.length
    let c := { c with buf := c.fillBuf chunk }
    let complete := completeMessageSize c.buf endIndex
    if complete > 0 then
      let packet : Packet := ⟨c.buf.take complete, complete, .namedPipe pipeName⟩
      match queue with
      | .full => some ({ c with dropped := c.dropped + 1 }.keepResidue bufSize endIndex complete)
      | .closed => none
      | .ok => some ({ c with sent := c.sent ++ [packet] }.keepResidue bufSize endIndex complete)
    else some (c.keepResidue bufSize endIndex complete)

/-- A client whose queue is never full has read the given chunks: each is non-empty and fits the
slice that was offered. -/
inductive Reads (pipeName : String) (bufSize : Nat) : PipeClient → List Bytes → Prop
  | start : Reads pipeName bufSize (new bufSize) []
  | read {c c' : PipeClient} {chunks : List Bytes} {chunk : Bytes}
      (before : Reads pipeName bufSize c chunks) (ne : chunk ≠ [])
      (fits : chunk.length ≤ c.offered.length)
      (turn : c.turn pipeName bufSize (.bytes chunk) .ok = some c') :
      Reads pipeName bufSize c' (chunks ++ [chunk])

/-! ## What a turn does -/

/-- What the loop looks at: what was kept and what was just read. -/
def window (c : PipeClient) (chunk : Bytes) : Bytes := c.buf.take c.startWriteIndex ++ chunk

theorem fillBuf_take {c : PipeClient} (room : c.startWriteIndex ≤ c.buf.length) (chunk : Bytes) :
    (c.fillBuf chunk).take (c.startWriteIndex + chunk.length) = c.window chunk := by
  rw [fillBuf, window]
  exact List.take_left' (by rw [List.length_append, List.length_take, Nat.min_eq_left room])

theorem length_window {c : PipeClient} (room : c.startWriteIndex ≤ c.buf.length) (chunk : Bytes) :
    (c.window chunk).length = c.startWriteIndex + chunk.length := by
  rw [window, List.length_append, List.length_take, Nat.min_eq_left room]

theorem fillBuf_length {c : PipeClient} {chunk : Bytes} (fits : chunk.length ≤ c.offered.length)
    (room : c.startWriteIndex ≤ c.buf.length) : (c.fillBuf chunk).length = c.buf.length := by
  simp only [offered, List.length_drop] at fits
  simp only [fillBuf, List.length_append, List.length_take, List.length_drop]
  omega

/-- The packet of a window that has a newline. -/
def packetOf (pipeName : String) (window : Bytes) : Packet :=
  ⟨terminated newline window, (terminated newline window).length, .namedPipe pipeName⟩

@[simp]
theorem data_packetOf (pipeName : String) (window : Bytes) :
    (packetOf pipeName window).data = terminated newline window := by
  rw [Packet.data, packetOf, List.take_length]

@[simp]
theorem sent_keepResidue (c : PipeClient) (bufSize endIndex complete : Nat) :
    (c.keepResidue bufSize endIndex complete).sent = c.sent := by
  unfold keepResidue
  dsimp only
  split_ifs <;> rfl

/-- A turn sends the terminated part of the window, if the queue takes it, and keeps the rest. -/
theorem turn_eq_some {pipeName : String} {bufSize : Nat} {c c' : PipeClient} {chunk : Bytes}
    {queue : TrySend} (room : c.startWriteIndex ≤ c.buf.length)
    (turn : c.turn pipeName bufSize (.bytes chunk) queue = some c') :
    ∃ sent dropped,
      c' = keepResidue { c with buf := c.fillBuf chunk, sent, dropped } bufSize
        (c.startWriteIndex + chunk.length) (terminated newline (c.window chunk)).length ∧
      sent = if queue = .ok ∧ newline ∈ c.window chunk then
          c.sent ++ [packetOf pipeName (c.window chunk)]
        else c.sent := by
  have complete : completeMessageSize (c.fillBuf chunk) (c.startWriteIndex + chunk.length) =
      (terminated newline (c.window chunk)).length := by
    rw [completeMessageSize, fillBuf_take room]
    exact Framing.rposition_eq _
  have pos_iff : (terminated newline (c.window chunk)).length > 0 ↔ newline ∈ c.window chunk := by
    rw [gt_iff_lt, List.length_pos_iff, Ne, Framing.terminated_eq_nil_iff, not_not]
  have taken : (c.fillBuf chunk).take (terminated newline (c.window chunk)).length =
      terminated newline (c.window chunk) := by
    have lengths := Framing.length_terminated_add_residue (d := newline) (c.window chunk)
    rw [length_window room] at lengths
    have whole := Framing.take_terminated (d := newline) (c.window chunk)
    rwa [← fillBuf_take room, List.take_take, fillBuf_take room, Nat.min_eq_left (by omega)]
      at whole
  simp only [PipeClient.turn, complete, pos_iff, taken] at turn
  split at turn
  · rename_i mem
    cases queue with
    | ok =>
      cases turn
      exact ⟨_, _, rfl, by simp [mem, packetOf]⟩
    | full =>
      cases turn
      exact ⟨c.sent, c.dropped + 1, rfl, by simp⟩
    | closed => cases turn
  · rename_i none
    cases turn
    exact ⟨c.sent, c.dropped, rfl, by simp [none]⟩

/-- With room on the queue the loop goes on after any read. -/
theorem exists_turn_ok (pipeName : String) (bufSize : Nat) (c : PipeClient) (chunk : Bytes) :
    ∃ c', c.turn pipeName bufSize (.bytes chunk) .ok = some c' := by
  simp only [turn]
  split <;> exact ⟨_, rfl⟩

/-! ## The framing invariant -/

/-- After reading `stream`: the sent data is its newline-terminated part, the residue stands at
the start of the buffer, and there is room behind it. -/
structure Sound (bufSize : Nat) (c : PipeClient) (stream : Bytes) : Prop where
  length : c.buf.length = bufSize
  sent : (c.sent.map Packet.data).flatten = Framing.terminated newline stream
  residue : c.buf.take c.startWriteIndex = Framing.residue newline stream
  room : c.startWriteIndex < bufSize
  ends : ∀ p ∈ c.sent, p.data ≠ [] ∧ Framing.Ends newline p.data

theorem new_sound {bufSize : Nat} (h : 0 < bufSize) : (new bufSize).Sound bufSize [] where
  length := by simp [new]
  sent := rfl
  residue := by simp [new]
  room := h
  ends := by simp [new]

/-- No newline-free run of the stream is as long as the buffer. -/
def ShortRuns (bufSize : Nat) (stream : Bytes) : Prop :=
  ∀ run, run <:+: stream → newline ∉ run → run.length < bufSize

theorem ShortRuns.residue_lt {bufSize : Nat} {stream : Bytes} (h : ShortRuns bufSize stream) :
    (Framing.residue newline stream).length < bufSize := by
  refine h _ ?_ (Framing.not_mem_residue stream)
  exact (List.rtakeWhile_suffix _ _).isInfix

theorem ShortRuns.of_append {bufSize : Nat} {stream more : Bytes}
    (h : ShortRuns bufSize (stream ++ more)) : ShortRuns bufSize stream := by
  intro run hr hn
  exact h run (hr.trans (List.prefix_append stream more).isInfix) hn

/-- The window the loop looks at: what was kept and what was just read. -/
structure Window (bufSize : Nat) (c : PipeClient) (endIndex : Nat) (window : Bytes) : Prop where
  length : c.buf.length = bufSize
  filled : c.buf.take endIndex = window
  endIndex : endIndex = window.length
  short : (Framing.residue newline window).length < bufSize

/-- The residue ends up at the start of a buffer of unchanged length. -/
theorem Window.keepResidue {bufSize endIndex : Nat} {c : PipeClient} {window : Bytes}
    (h : c.Window bufSize endIndex window) :
    let c' := c.keepResidue bufSize endIndex (Framing.terminated newline window).length
    c'.buf.length = bufSize ∧ c'.sent = c.sent ∧ c'.startWriteIndex < bufSize ∧
      c'.buf.take c'.startWriteIndex = Framing.residue newline window := by
  have start : endIndex - (Framing.terminated newline window).length =
      (Framing.residue newline window).length := by
    have lengths := Framing.length_terminated_add_residue (d := newline) window
    have := h.endIndex
    omega
  have short := h.short
  have moved : (c.buf.take endIndex).drop (Framing.terminated newline window).length =
      Framing.residue newline window := by
    rw [h.filled, Framing.drop_terminated]
  simp only [PipeClient.keepResidue, start, if_neg (Nat.not_le.2 short)]
  by_cases pos : (Framing.residue newline window).length > 0
  · simp only [pos, if_true, moved]
    refine ⟨?_, trivial, short, List.take_left' rfl⟩
    rw [List.length_append, List.length_drop, h.length]
    omega
  · have empty : Framing.residue newline window = [] := List.length_eq_zero_iff.1 (by omega)
    simp only [pos, if_false]
    exact ⟨h.length, trivial, short, by simp [empty]⟩

theorem Sound.startWriteIndex_le {bufSize : Nat} {c : PipeClient} {stream : Bytes}
    (h : c.Sound bufSize stream) : c.startWriteIndex ≤ c.buf.length := by
  rw [h.length]
  exact h.room.le

/-- The loop looks at the residue so far and the chunk. -/
theorem Sound.window_eq {bufSize : Nat} {c : PipeClient} {stream : Bytes}
    (h : c.Sound bufSize stream) (chunk : Bytes) :
    c.window chunk = Framing.residue newline stream ++ chunk := by
  rw [PipeClient.window, h.residue]

/-- The window after a read. -/
theorem Sound.window {bufSize : Nat} {c : PipeClient} {stream chunk : Bytes}
    (h : c.Sound bufSize stream) (fits : chunk.length ≤ c.offered.length)
    (short : ShortRuns bufSize (stream ++ chunk)) (sent : List Packet) (dropped : Nat) :
    Window bufSize { c with buf := c.fillBuf chunk, sent, dropped }
      (c.startWriteIndex + chunk.length) (c.window chunk) where
  length := by
    rw [← h.length]
    exact fillBuf_length fits h.startWriteIndex_le
  filled := fillBuf_take h.startWriteIndex_le chunk
  endIndex := (length_window h.startWriteIndex_le chunk).symm
  short := by
    rw [h.window_eq, ← Framing.residue_append]
    exact short.residue_lt

/-- One read keeps the invariant. -/
theorem Sound.turn {pipeName : String} {bufSize : Nat} {c c' : PipeClient} {stream chunk : Bytes}
    (h : c.Sound bufSize stream) (fits : chunk.length ≤ c.offered.length)
    (short : ShortRuns bufSize (stream ++ chunk))
    (turn : c.turn pipeName bufSize (.bytes chunk) .ok = some c') :
    c'.Sound bufSize (stream ++ chunk) := by
  obtain ⟨sent, dropped, rfl, sent_eq⟩ := turn_eq_some h.startWriteIndex_le turn
  obtain ⟨length, same, room, kept⟩ := (h.window fits short sent dropped).keepResidue
  have all : Framing.terminated newline (stream ++ chunk) =
      Framing.terminated newline stream ++ Framing.terminated newline (c.window chunk) := by
    rw [h.window_eq, Framing.terminated_append]
  have rest : Framing.residue newline (c.window chunk) =
      Framing.residue newline (stream ++ chunk) := by
    rw [h.window_eq, Framing.residue_append stream]
  replace sent_eq := same.trans sent_eq
  split_ifs at sent_eq with taken
  · refine ⟨length, ?_, kept.trans rest, room, ?_⟩
    · rw [sent_eq, all, List.map_append, List.flatten_append, h.sent]
      simp
    · rw [sent_eq]
      simp only [List.mem_append, List.mem_singleton]
      rintro p (hp | rfl)
      · exact h.ends p hp
      · rw [data_packetOf]
        exact ⟨Framing.terminated_eq_nil_iff.not.2 (not_not.2 taken.2), Framing.ends_terminated _⟩
  · have none : Framing.terminated newline (c.window chunk) = [] :=
      Framing.terminated_eq_nil_iff.2 fun mem => taken ⟨rfl, mem⟩
    refine ⟨length, ?_, kept.trans rest, room, ?_⟩
    · rw [sent_eq, all, none, List.append_nil, h.sent]
    · rw [sent_eq]
      exact h.ends

theorem Reads.sound {pipeName : String} {bufSize : Nat} {c : PipeClient} {chunks : List Bytes}
    (positive : 0 < bufSize) (reads : Reads pipeName bufSize c chunks)
    (short : ShortRuns bufSize chunks.flatten) : c.Sound bufSize chunks.flatten := by
  induction reads with
  | start => exact new_sound positive
  | read before ne fits turn ih =>
    rw [List.flatten_append, List.flatten_singleton] at short ⊢
    exact (ih short.of_append).turn fits short turn

/-- Whatever a client reads, in whatever pieces: the data it has sent is the longest part of the
stream that ends in a newline, packet by packet ending in a newline; the unsent residue is kept at
the start of the buffer; the next read is offered the non-empty rest of the buffer; and the loop
takes whatever that read puts there. -/
theorem reads_framing (pipeName : String) {bufSize : Nat} (positive : 1 ≤ bufSize)
    {c : PipeClient} {chunks : List Bytes} (reads : Reads pipeName bufSize c chunks)
    (short : ShortRuns bufSize chunks.flatten) :
    let packets := (c.sent.map Packet.data).flatten
    Framing.IsLongest newline chunks.flatten packets ∧
      (∀ p ∈ c.sent, ∃ h : p.data ≠ [], p.data.getLast h = newline) ∧
      packets ++ c.buf.take c.startWriteIndex = chunks.flatten ∧
      c.buf.length = bufSize ∧ c.startWriteIndex ≤ c.buf.length ∧ c.offered ≠ [] ∧
      ∀ chunk, chunk ≠ [] → chunk.length ≤ c.offered.length →
        ∃ c', Reads pipeName bufSize c' (chunks ++ [chunk]) := by
  have sound := reads.sound positive short
  refine ⟨?_, ?_, ?_, sound.length, ?_, ?_, ?_⟩
  · rw [sound.sent]
    exact Framing.isLongest_terminated _
  · intro p hp
    obtain ⟨ne, ends⟩ := sound.ends p hp
    exact ⟨ne, ends ne⟩
  · rw [sound.sent, sound.residue, Framing.terminated_append_residue]
  · rw [sound.length]
    exact sound.room.le
  · apply List.ne_nil_of_length_pos
    rw [offered, List.length_drop, sound.length]
    have := sound.room
    omega
  · intro chunk ne fits
    obtain ⟨c', next⟩ := c.exists_turn_ok pipeName bufSize chunk
    exact ⟨c', .read reads ne fits next⟩

/-- Two reads of six bytes: the newline inside the first one ends the first packet, and the last
byte waits for the next read. -/
theorem reads_framing_two :
    ∃ c, Reads "pipe" 8 c [[97, 10, 98], [99, 10, 100]] ∧
      c.sent.map Packet.data = [[97, 10], [98, 99, 10]] ∧
      Framing.IsLongest newline [97, 10, 98, 99, 10, 100] (c.sent.map Packet.data).flatten ∧
      c.buf.take c.startWriteIndex = [100] ∧ c.offered ≠ [] ∧
      ∃ c', Reads "pipe" 8 c' [[97, 10, 98], [99, 10, 100], [10]] := by
  have one : Reads "pipe" 8 _ ([] ++ [[97, 10, 98]]) := .read .start (by decide) (by decide) rfl
  have two : Reads "pipe" 8 _ ([] ++ [[97, 10, 98]] ++ [[99, 10, 100]]) :=
    .read one (by decide) (by decide) rfl
  obtain ⟨longest, -, -, -, -, offered, more⟩ := reads_framing "pipe" (by decide) two
    (fun _ hr _ => Nat.lt_of_le_of_lt hr.length_le (by decide))
  exact ⟨_, two, rfl, longest, rfl, offered, more [10] (by decide) (by decide)⟩

end PipeClient

end ServerlessComponents.Dogstatsd
