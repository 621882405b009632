import Actuator.Lib.BigEndian
import Actuator.Lib.Text

/-!
# Frames on a socket

`sendData` and `receiveData` delimit messages on a TCP stream by a four-byte
length. The socket decides how many bytes each `send` accepts and each `recv`
returns, so both ends carry a plan of answers indexed by the number of calls
made. The results below hold for every plan: the writer's loop leaves exactly
the frame on the stream, and the reader's loop stays aligned with it.
-/

namespace Actuator.Coordinator

open Actuator.Lib

def kMaxFrameSizeBytes : UInt32 := 8 * 1024 * 1024

/-! ## Sockets -/

/-- The writing end of a connection. The `k`-th call of `send` fails when `accepts k` is `none`,
and otherwise takes `accepts k + 1` bytes, or all the bytes offered when they are fewer. -/
structure SendSocket where
  accepts : Nat → Option Nat
  calls : Nat := 0
  wire : Str := []

namespace SendSocket

/-- `send` on a nonempty buffer: the number of bytes taken, or `none` for a negative result. -/
def send (s : SendSocket) (buffer : Str) : Option Nat × SendSocket :=
  match s.accepts s.calls with
  | none => (none, { s with calls := s.calls + 1 })
  | some n =>
    (some (min (n + 1) buffer.length),
      { s with calls := s.calls + 1, wire := s.wire ++ buffer.take (n + 1) })

/-- No call ever fails. -/
def Transmits (s : SendSocket) : Prop := ∀ k, s.accepts k ≠ none

end SendSocket

/-- The reading end of a connection. `incoming` is what the peer still delivers before it closes,
and the `k`-th call of `recv` fails when `delivers k` is `none`. -/
structure RecvSocket where
  delivers : Nat → Option Nat
  calls : Nat := 0
  incoming : Str

namespace RecvSocket

/-- `recv` for at most `length` bytes. The result is empty where C returns 0 or a negative number. -/
def recv (s : RecvSocket) (length : Nat) : Str × RecvSocket :=
  match s.delivers s.calls with
  | none => ([], { s with calls := s.calls + 1 })
  | some n =>
    let received := min (n + 1) length
    (s.incoming.take received, { s with calls := s.calls + 1, incoming := s.incoming.drop received })

/-- No call fails before the end of the stream. -/
def Delivers (s : RecvSocket) : Prop := ∀ k, s.delivers k ≠ none

end RecvSocket

/-! ## Sending -/

theorem SendSocket.send_pos {s s' : SendSocket} {buffer : Str} {sent : Nat} (nonempty : 0 < buffer.length)
    (taken : s.send buffer = (some sent, s')) : 0 < sent := by
  unfold send at taken
  split at taken <;> simp only [Prod.mk.injEq, Option.some.injEq, reduceCtorEq, false_and] at taken
  omega

/-- The lambda `send_all` of `sendData`, from `totalSent` on. -/
def sendAll (buffer : Str) (totalSent : Nat) (s : SendSocket) : Bool × SendSocket :=
  if _ : totalSent < buffer.length then
    match _taken : s.send (buffer.drop totalSent) with
    | (none, s) => (false, s)
    | (some sent, s) => sendAll buffer (totalSent + sent) s
  else (true, s)
termination_by buffer.length - totalSent
decreasing_by
  have := SendSocket.send_pos (by simp; omega) _taken
  omega

def sendData (s : SendSocket) (data : Str) : Bool × SendSocket :=
  if data.isEmpty ∨ data.length > kMaxFrameSizeBytes.toNat then (false, s)
  else
    let frameHeader := pushUint32 (UInt32.ofNat data.length)
    match sendAll frameHeader 0 s with
    | (false, s) => (false, s)
    | (true, s) => sendAll data 0 s

/-! ## Receiving -/

/-- `recvAll` with the bytes received so far. -/
def recvAll (length : Nat) (received : Str) (s : RecvSocket) : Bool × Str × RecvSocket :=
  if received.length < length then
    match _received : s.recv (length - received.length) with
    | ([], s) => (false, received, s)
    | (b :: bs, s) => recvAll length (received ++ b :: bs) s
  else (true, received, s)
termination_by length - received.length
decreasing_by simp only [List.length_append, List.length_cons]; omega

/-- `receiveData` into the caller's vector `data`. -/
def receiveData (s : RecvSocket) (data : Str) : Bool × Str × RecvSocket :=
  match recvAll 4 [] s with
  | (false, _, s) => (false, data, s)
  | (true, frameHeader, s) =>
    let frameSize := wordUint32 (frameHeader.getD 0 0) (frameHeader.getD 1 0) (frameHeader.getD 2 0) (frameHeader.getD 3 0)
    if frameSize = 0 ∨ frameSize > kMaxFrameSizeBytes then (false, data, s)
    else
      match recvAll frameSize.toNat [] s with
      | (false, _, s) => (false, [], s)
      | (true, body, s) => (true, body, s)

/-! ## The two loops -/

theorem SendSocket.send_transmits (s : SendSocket) (buffer : Str) (transmits : s.Transmits) :
    ∃ sent s', s.send buffer = (some sent, s') ∧ s'.wire = s.wire ++ buffer.take sent ∧ s'.Transmits := by
  obtain ⟨n, accepted⟩ := Option.ne_none_iff_exists'.1 (transmits s.calls)
  refine ⟨min (n + 1) buffer.length, { s with calls := s.calls + 1, wire := s.wire ++ buffer.take (n + 1) }, ?_, ?_,
    transmits⟩
  · rw [send, accepted]
  · simp only [← List.take_eq_take_min]

/-- A socket that takes what it is given takes the whole buffer. -/
theorem sendAll_transmits (buffer : Str) (totalSent : Nat) (s : SendSocket) (transmits : s.Transmits) :
    ∃ s', sendAll buffer totalSent s = (true, s') ∧ s'.wire = s.wire ++ buffer.drop totalSent ∧ s'.Transmits := by
  fun_induction sendAll buffer totalSent s with
  | case1 totalSent s more s' failed =>
    obtain ⟨sent, s'', taken, -⟩ := s.send_transmits (buffer.drop totalSent) transmits
    rw [taken] at failed
    cases failed
  | case2 totalSent s more sent s' taken ih =>
    obtain ⟨_, _, taken', wire, transmits'⟩ := s.send_transmits (buffer.drop totalSent) transmits
    obtain ⟨rfl, rfl⟩ : _ = sent ∧ _ = s' := by simpa using taken'.symm.trans taken
    obtain ⟨final, run, wire', transmits''⟩ := ih transmits'
    refine ⟨final, run, ?_, transmits''⟩
    rw [wire', wire, List.append_assoc, ← List.drop_drop, List.take_append_drop]
  | case3 totalSent s done =>
    exact ⟨s, rfl, by rw [List.drop_of_length_le (by omega), List.append_nil], transmits⟩

theorem RecvSocket.recv_spec (s : RecvSocket) (length : Nat) :
    ∃ got s', s.recv length = (got, s') ∧ s.incoming = got ++ s'.incoming ∧ got.length ≤ length ∧
      s'.delivers = s.delivers := by
  unfold recv
  split
  · exact ⟨_, _, rfl, rfl, Nat.zero_le _, rfl⟩
  · refine ⟨_, _, rfl, ?_, ?_, rfl⟩
    · exact (List.take_append_drop ..).symm
    · rw [List.length_take]
      omega

theorem RecvSocket.recv_delivers {s : RecvSocket} {length : Nat} (delivers : s.Delivers) (asked : 0 < length)
    (more : s.incoming ≠ []) : (s.recv length).1 ≠ [] := by
  obtain ⟨n, delivered⟩ := Option.ne_none_iff_exists'.1 (delivers s.calls)
  obtain ⟨b, bs, incoming⟩ := List.exists_cons_of_ne_nil more
  rw [recv, delivered]
  simp [incoming]
  omega

/-- The loop hands over a beginning of the stream, of the length asked for if it succeeds. -/
theorem recvAll_spec (length : Nat) (received : Str) (s : RecvSocket) (fits : received.length ≤ length) :
    ∃ ok got s', recvAll length received s = (ok, received ++ got, s') ∧ s.incoming = got ++ s'.incoming ∧
      (ok = true → received.length + got.length = length) ∧ s'.delivers = s.delivers := by
  fun_induction recvAll length received s with
  | case1 received s more s' closed =>
    obtain ⟨_, _, run, stream, -, same⟩ := s.recv_spec (length - received.length)
    obtain ⟨rfl, rfl⟩ : _ = [] ∧ _ = s' := by simpa using run.symm.trans closed
    exact ⟨false, [], _, by rw [List.append_nil], stream, nofun, same⟩
  | case2 received s more b bs s' delivered ih =>
    obtain ⟨_, _, run, stream, bound, same⟩ := s.recv_spec (length - received.length)
    obtain ⟨rfl, rfl⟩ : _ = b :: bs ∧ _ = s' := by simpa using run.symm.trans delivered
    obtain ⟨ok, got, final, run', stream', full, same'⟩ := ih (by simp at bound ⊢; omega)
    refine ⟨ok, b :: bs ++ got, final, ?_, ?_, fun h => ?_, same'.trans same⟩
    · rw [run', List.append_assoc]
    · rw [stream, stream', List.append_assoc]
    · have := full h
      simp only [List.length_append, List.length_cons] at this ⊢
      omega
  | case3 received s done => exact ⟨true, [], s, by rw [List.append_nil], rfl, fun _ => by simp; omega, rfl⟩

/-- The loop succeeds when the stream is long enough. -/
theorem recvAll_delivers (length : Nat) (received : Str) (s : RecvSocket) (delivers : s.Delivers)
    (enough : length ≤ received.length + s.incoming.length) : (recvAll length received s).1 = true := by
  fun_induction recvAll length received s with
  | case1 received s more s' closed =>
    have asked : 0 < length - received.length := by omega
    have stream : s.incoming ≠ [] := by
      intro h
      rw [h] at enough
      simp at enough
      omega
    have nonempty := RecvSocket.recv_delivers delivers asked stream
    rw [closed] at nonempty
    exact absurd rfl nonempty
  | case2 received s more b bs s' delivered ih =>
    obtain ⟨_, _, run, stream, -, same⟩ := s.recv_spec (length - received.length)
    obtain ⟨rfl, rfl⟩ : _ = b :: bs ∧ _ = s' := by simpa using run.symm.trans delivered
    refine ih (by rw [RecvSocket.Delivers, same]; exact delivers) ?_
    rw [stream] at enough
    simp only [List.length_append, List.length_cons] at enough ⊢
    omega
  | case3 received s done => rfl

/-! ## One frame -/

/-- The bytes of one frame on the wire. -/
def frameBytes (data : Str) : Str := toBytesBE 4 data.length ++ data

theorem toNat_kMaxFrameSizeBytes : kMaxFrameSizeBytes.toNat = 8388608 := by decide

theorem sendData_transmits {s : SendSocket} {data : Str} (transmits : s.Transmits) (nonempty : 1 ≤ data.length)
    (small : data.length ≤ kMaxFrameSizeBytes.toNat) :
    ∃ s', sendData s data = (true, s') ∧ s'.wire = s.wire ++ frameBytes data ∧ s'.Transmits := by
  rw [toNat_kMaxFrameSizeBytes] at small
  have accepted : ¬(data.isEmpty = true ∨ data.length > kMaxFrameSizeBytes.toNat) := by
    rw [toNat_kMaxFrameSizeBytes, List.isEmpty_iff_length_eq_zero]
    omega
  obtain ⟨s1, run1, wire1, transmits1⟩ :=
    sendAll_transmits (pushUint32 (UInt32.ofNat data.length)) 0 s transmits
  obtain ⟨s2, run2, wire2, transmits2⟩ := sendAll_transmits data 0 s1 transmits1
  refine ⟨s2, ?_, ?_, transmits2⟩
  · simp only [sendData, if_neg accepted, run1, run2]
  · have size : (UInt32.ofNat data.length).toNat = data.length := UInt32.toNat_ofNat_of_lt' (by
      show data.length < 2 ^ 32
      omega)
    simp only [wire2, wire1, List.drop_zero, pushUint32_eq, size, frameBytes, List.append_assoc]

/-- The header word the receiver computes. -/
theorem frameSize_eq {frameHeader : Str} (len : frameHeader.length = 4) :
    (wordUint32 (frameHeader.getD 0 0) (frameHeader.getD 1 0) (frameHeader.getD 2 0) (frameHeader.getD 3 0)).toNat =
      ofBytesBE frameHeader := by
  obtain ⟨b0, b1, b2, b3, rfl⟩ := exists_of_length_four len
  exact toNat_wordUint32 b0 b1 b2 b3

theorem receiveData_frame {s : RecvSocket} {body rest : Str} (data : Str) (delivers : s.Delivers) (nonempty : 1 ≤ body.length)
    (small : body.length ≤ kMaxFrameSizeBytes.toNat) (stream : s.incoming = frameBytes body ++ rest) :
    ∃ s', receiveData s data = (true, body, s') ∧ s'.incoming = rest ∧ s'.Delivers := by
  rw [toNat_kMaxFrameSizeBytes] at small
  obtain ⟨ok, header, s1, run1, stream1, full1, same1⟩ := recvAll_spec 4 [] s (by simp)
  have ok1 : ok = true := by
    have := recvAll_delivers 4 [] s delivers (by simp [stream, frameBytes])
    rwa [run1] at this
  subst ok1
  simp only [List.nil_append, List.length_nil, Nat.zero_add, forall_const] at run1 full1
  rw [stream, frameBytes, List.append_assoc] at stream1
  obtain ⟨rfl, incoming1⟩ := List.append_inj stream1 (by rw [length_toBytesBE, full1])
  have size := frameSize_eq full1
  rw [ofBytesBE_toBytesBE (by omega)] at size
  have delivers1 : s1.Delivers := by rw [RecvSocket.Delivers, same1]; exact delivers
  obtain ⟨ok, got, s2, run2, stream2, full2, same2⟩ := recvAll_spec body.length [] s1 (by simp)
  have ok2 : ok = true := by
    have := recvAll_delivers body.length [] s1 delivers1 (by simp [← incoming1])
    rwa [run2] at this
  subst ok2
  simp only [List.nil_append, List.length_nil, Nat.zero_add, forall_const] at run2 full2
  rw [← incoming1] at stream2
  obtain ⟨rfl, incoming2⟩ := List.append_inj stream2 full2.symm
  refine ⟨s2, ?_, incoming2.symm, by rw [RecvSocket.Delivers, same2]; exact delivers1⟩
  have accepted : ∀ w : UInt32, w.toNat = body.length → ¬(w = 0 ∨ w > kMaxFrameSizeBytes) := by
    rintro w toNat (rfl | big)
    · simp at toNat
      omega
    · rw [gt_iff_lt, UInt32.lt_iff_toNat_lt, toNat_kMaxFrameSizeBytes] at big
      omega
  simp only [receiveData, run1]
  rw [if_neg (accepted _ size), size, run2]

/-- Streams on which the next frame is missing, malformed or cut off. -/
def BadFrame (stream : Str) : Prop :=
  stream.length < 4 ∨ ∃ frameHeader rest, stream = frameHeader ++ rest ∧ frameHeader.length = 4 ∧
    (ofBytesBE frameHeader = 0 ∨ ofBytesBE frameHeader > kMaxFrameSizeBytes.toNat ∨ rest.length < ofBytesBE frameHeader)

/-- A failed call hands over nothing: the caller's vector is as it was, or cleared. -/
theorem receiveData_badFrame (s : RecvSocket) (data : Str) (bad : BadFrame s.incoming) :
    (receiveData s data).1 = false ∧ ((receiveData s data).2.1 = data ∨ (receiveData s data).2.1 = []) := by
  obtain ⟨ok, header, s1, run1, stream1, full1, -⟩ := recvAll_spec 4 [] s (by simp)
  cases ok with
  | false => simp [receiveData, run1]
  | true =>
    simp only [List.nil_append, List.length_nil, Nat.zero_add, forall_const] at run1 full1
    have size := frameSize_eq full1
    simp only [receiveData, run1]
    split
    · exact ⟨rfl, Or.inl rfl⟩
    · rename_i accepted
      obtain ⟨ok, got, s2, run2, stream2, full2, -⟩ := recvAll_spec (ofBytesBE header) [] s1 (by simp)
      cases ok with
      | false =>
        rw [size, run2]
        exact ⟨rfl, Or.inr rfl⟩
      | true =>
        exfalso
        have len := full2 rfl
        simp only [List.length_nil, Nat.zero_add] at len
        rcases bad with short | ⟨header', rest, stream, len', bad⟩
        · rw [stream1, List.length_append] at short
          omega
        · obtain ⟨rfl, rfl⟩ := List.append_inj (stream1.symm.trans stream) (by rw [full1, len'])
          rw [stream2, List.length_append] at bad
          rw [not_or, ← UInt32.toNat_inj, gt_iff_lt, UInt32.lt_iff_toNat_lt, size] at accepted
          simp only [UInt32.toNat_zero] at accepted
          omega

/-! ## Whole connections -/

/-- Successive `sendData` calls, up to the first failure. -/
def sendFrames (s : SendSocket) : List Str → Bool × SendSocket
  | [] => (true, s)
  | data :: frames =>
    match sendData s data with
    | (false, s) => (false, s)
    | (true, s) => sendFrames s frames

/-- The results of `n` successive `receiveData` calls, each into a fresh vector. -/
def receiveFrames (s : RecvSocket) : Nat → List (Bool × Str) × RecvSocket
  | 0 => ([], s)
  | n + 1 =>
    match receiveData s [] with
    | (ok, data, s) =>
      let (results, s) := receiveFrames s n
      ((ok, data) :: results, s)

theorem sendFrames_transmits (frames : List Str) (s : SendSocket) (transmits : s.Transmits)
    (sizes : ∀ f ∈ frames, 1 ≤ f.length ∧ f.length ≤ kMaxFrameSizeBytes.toNat) :
    ∃ s', sendFrames s frames = (true, s') ∧ s'.wire = s.wire ++ frames.flatMap frameBytes := by
  induction frames generalizing s with
  | nil => exact ⟨s, rfl, (List.append_nil _).symm⟩
  | cons f frames ih =>
    obtain ⟨sizes, rest⟩ := List.forall_mem_cons.1 sizes
    obtain ⟨s1, run1, wire1, transmits1⟩ := sendData_transmits transmits sizes.1 sizes.2
    obtain ⟨s2, run2, wire2⟩ := ih s1 transmits1 rest
    refine ⟨s2, by simp only [sendFrames, run1, run2], ?_⟩
    rw [wire2, wire1, List.flatMap_cons, List.append_assoc]

theorem receiveFrames_delivers (frames : List Str) (s : RecvSocket) (rest : Str) (delivers : s.Delivers)
    (sizes : ∀ f ∈ frames, 1 ≤ f.length ∧ f.length ≤ kMaxFrameSizeBytes.toNat)
    (stream : s.incoming = frames.flatMap frameBytes ++ rest) :
    ∃ s', receiveFrames s frames.length = (frames.map fun f => (true, f), s') ∧ s'.incoming = rest := by
  induction frames generalizing s with
  | nil => exact ⟨s, rfl, stream⟩
  | cons f frames ih =>
    obtain ⟨sizes, others⟩ := List.forall_mem_cons.1 sizes
    rw [List.flatMap_cons, List.append_assoc] at stream
    obtain ⟨s1, run1, stream1, delivers1⟩ := receiveData_frame [] delivers sizes.1 sizes.2 stream
    obtain ⟨s2, run2, stream2⟩ := ih s1 delivers1 others stream1
    exact ⟨s2, by simp only [List.length_cons, receiveFrames, run1, run2, List.map_cons], stream2⟩

/-- Frames written by `sendData` come out of `receiveData` one by one, however the two sockets split
the bytes, and a stream without a whole frame at its front yields a failure and no bytes. -/
theorem receiveFrames_sendFrames (frames : List Str) (out : SendSocket) (inp : RecvSocket) (written rest data : Str)
    (transmits : out.Transmits) (delivers : inp.Delivers)
    (sizes : ∀ f ∈ frames, 1 ≤ f.length ∧ f.length ≤ kMaxFrameSizeBytes.toNat)
    (wire : (sendFrames out frames).2.wire = out.wire ++ written) (stream : inp.incoming = written ++ rest) :
    (sendFrames out frames).1 = true ∧
    (receiveFrames inp frames.length).1 = frames.map (fun f => (true, f)) ∧
    (receiveFrames inp frames.length).2.incoming = rest ∧
    ∀ s : RecvSocket, BadFrame s.incoming →
      (receiveData s data).1 = false ∧ ((receiveData s data).2.1 = data ∨ (receiveData s data).2.1 = []) := by
  obtain ⟨s1, run1, wire1⟩ := sendFrames_transmits frames out transmits sizes
  rw [run1, wire1] at wire
  obtain rfl := List.append_cancel_left wire
  obtain ⟨s2, run2, stream2⟩ := receiveFrames_delivers frames inp rest delivers sizes stream
  exact ⟨by rw [run1], by rw [run2], by rw [run2, stream2], fun s => receiveData_badFrame s data⟩

/-- Two frames written one byte at a time and read in pieces of three, and a cut-off third frame. -/
theorem receiveFrames_sendFrames_sample :
    (receiveFrames ⟨fun _ => some 2, 0, [0, 0, 0, 2, 7, 8, 0, 0, 0, 1, 9]⟩ 2).1 = [(true, [7, 8]), (true, [9])] ∧
    (receiveData ⟨fun _ => some 2, 0, [0, 0, 0, 5, 1]⟩ []).1 = false := by
  have written : (sendFrames ⟨fun _ => some 0, 0, []⟩ [[7, 8], [9]]).2.wire = [0, 0, 0, 2, 7, 8, 0, 0, 0, 1, 9] := by
    obtain ⟨s, run, wire⟩ := sendFrames_transmits [[7, 8], [9]] ⟨fun _ => some 0, 0, []⟩ nofun (by decide)
    rw [run, wire]
    rfl
  have result := receiveFrames_sendFrames [[7, 8], [9]] ⟨fun _ => some 0, 0, []⟩
    ⟨fun _ => some 2, 0, [0, 0, 0, 2, 7, 8, 0, 0, 0, 1, 9]⟩ _ [] [] nofun nofun (by decide) written rfl
  refine ⟨result.2.1, (result.2.2.2 ⟨fun _ => some 2, 0, [0, 0, 0, 5, 1]⟩ (Or.inr ?_)).1⟩
  exact ⟨[0, 0, 0, 5], [1], rfl, rfl, Or.inr (Or.inr (by decide))⟩

end Actuator.Coordinator
