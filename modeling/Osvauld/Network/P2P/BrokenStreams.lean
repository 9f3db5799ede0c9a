import Osvauld.Network.P2P.MessageFraming

namespace Osvauld.Network

open Osvauld.Core Data

/-! Streams that bring no message, and what the loop still takes after them. -/

section Loop

variable (env : NetworkEnv) (codec : SerdeJson) (acceptError : String)

def taken (position : Nat) : List RecvStream → List (Nat × Message)
  | [] => []
  | stream :: streams =>
      match reading codec [] stream.reads with
      | .whole message => (position, message) :: taken (position + 1) streams
      | .givenUp => taken (position + 1) streams
      | .incomplete => []

def closing : List RecvStream → Handler PUnit
  | [] => handleMessages env codec acceptError []
  | stream :: streams =>
      match reading codec [] stream.reads with
      | .incomplete => do
          let _ ← readStream env codec stream.ending [] []
          return
      | _ => closing streams

/-- The first reads of the stream, up to some point, complete a text that is a message
or cannot become one. -/
def RecvStream.ReadsOn (stream : RecvStream) : Prop :=
  ∃ count text, fromUtf8 (stream.reads.take count).flatten = some text ∧
    codec.fromStr text ≠ .error .eof

end Loop

variable {env : NetworkEnv} {codec : SerdeJson} {acceptError : String}

theorem handleMessages_taken (position : Nat) (streams : List RecvStream) :
    handleMessages env codec acceptError streams = (do
      Program.forEach (taken codec position streams) fun entry => handleMessage env entry.2
      closing env codec acceptError streams) := by
  induction streams generalizing position with
  | nil => rfl
  | cons stream streams ih =>
      rw [handleMessages, readStream_eq, taken, closing]
      cases reading codec [] stream.reads with
      | whole message =>
          rw [Reading.act, Program.forEach, Program.bind_assoc, Program.bind_assoc]
          simp only [Program.pure_bind, ih (position + 1)]
      | givenUp => exact ih (position + 1)
      | incomplete =>
          rw [Reading.act]
          cases stream.ending with
          | pending => rfl
          | finished => rfl
          | failed message => rfl

def Inconclusive (codec : SerdeJson) (buffer : Bytes) : Prop :=
  ∀ text, fromUtf8 buffer = some text → codec.fromStr text = .error .eof

theorem reading_of_undecided {buffer chunk : Bytes} {reads : List Bytes}
    (hnext : Inconclusive codec (buffer ++ chunk)) :
    reading codec buffer (chunk :: reads) = reading codec (buffer ++ chunk) reads := by
  cases chunk with
  | nil => rw [reading, List.append_nil]
  | cons byte bytes =>
      rw [reading]
      cases hdecoded : fromUtf8 (buffer ++ byte :: bytes) with
      | none => rfl
      | some text => simp only [hnext text hdecoded]

theorem reading_of_decided {buffer chunk : Bytes} {reads : List Bytes}
    (hbuffer : Inconclusive codec buffer) (hnext : ¬ Inconclusive codec (buffer ++ chunk)) :
    reading codec buffer (chunk :: reads) ≠ .incomplete := by
  cases chunk with
  | nil => exact absurd (by rwa [List.append_nil]) hnext
  | cons byte bytes =>
      simp only [Inconclusive, not_forall] at hnext
      obtain ⟨text, hdecoded, hdecided⟩ := hnext
      rw [reading, hdecoded]
      dsimp only
      cases hread : codec.fromStr text with
      | ok message => simp
      | error error =>
          cases error with
          | eof => exact absurd hread hdecided
          | invalid message => simp

theorem reading_incomplete_iff {buffer : Bytes} (hbuffer : Inconclusive codec buffer)
    (reads : List Bytes) :
    reading codec buffer reads = .incomplete ↔
      ∀ count, Inconclusive codec (buffer ++ (reads.take count).flatten) := by
  induction reads generalizing buffer with
  | nil =>
      simp only [List.take_nil, List.flatten_nil, List.append_nil, forall_const]
      exact iff_of_true rfl hbuffer
  | cons chunk reads ih =>
      have hcounts : (∀ count,
          Inconclusive codec (buffer ++ ((chunk :: reads).take count).flatten)) ↔
          ∀ count, Inconclusive codec (buffer ++ chunk ++ (reads.take count).flatten) := by
        constructor
        · intro hall count
          have hnext := hall (count + 1)
          rw [List.take_succ_cons, List.flatten_cons, ← List.append_assoc] at hnext
          exact hnext
        · intro hall count
          cases count with
          | zero => simpa using hbuffer
          | succ count =>
              rw [List.take_succ_cons, List.flatten_cons, ← List.append_assoc]
              exact hall count
      rw [hcounts]
      by_cases hnext : Inconclusive codec (buffer ++ chunk)
      · rw [reading_of_undecided hnext]
        exact ih hnext
      · refine iff_of_false (reading_of_decided hbuffer hnext) fun hall => hnext ?_
        simpa using hall 0

theorem readsOn_iff (hlawful : codec.Lawful) (stream : RecvStream) :
    stream.ReadsOn codec ↔ reading codec [] stream.reads ≠ .incomplete := by
  have hempty : Inconclusive codec [] := by
    intro text htext
    obtain rfl : text = "" := by
      have hnone := fromUtf8_utf8 ""
      rw [show utf8 "" = [] from rfl, htext] at hnone
      exact Option.some.inj hnone
    exact hlawful.empty
  rw [ne_eq, reading_incomplete_iff hempty]
  simp only [RecvStream.ReadsOn, Inconclusive, List.nil_append, not_forall, exists_prop]

theorem mem_taken_append_iff {entry : Nat × Message} {position : Nat}
    {front streams : List RecvStream} (hposition : position + front.length ≤ entry.1) :
    entry ∈ taken codec position (front ++ streams) ↔
      (∀ earlier ∈ front, reading codec [] earlier.reads ≠ .incomplete) ∧
        entry ∈ taken codec (position + front.length) streams := by
  induction front generalizing position with
  | nil => simp
  | cons stream front ih =>
      rw [List.length_cons] at hposition
      have hnext := @ih (position + 1) (by omega)
      rw [Nat.add_right_comm] at hnext
      rw [List.cons_append, taken, List.forall_mem_cons, List.length_cons, ← Nat.add_assoc]
      cases reading codec [] stream.reads with
      | whole message =>
          have hother : entry ≠ (position, message) := by
            rintro rfl
            omega
          simp [hother, hnext]
      | givenUp => simp [hnext]
      | incomplete => simp

/-- The loop deals with what it takes, and it takes a delivered message exactly when
every stream before it reads on. -/
theorem handleMessages_processed_iff (hlawful : codec.Lawful) (env : NetworkEnv)
    (acceptError : String) (streams : List RecvStream) :
    handleMessages env codec acceptError streams = (do
      Program.forEach (taken codec 0 streams) fun entry => handleMessage env entry.2
      closing env codec acceptError streams) ∧
      ∀ front stream others message, streams = front ++ stream :: others →
        stream.Delivers codec message →
          ((front.length, message) ∈ taken codec 0 streams ↔
            ∀ earlier ∈ front, earlier.ReadsOn codec) := by
  refine ⟨handleMessages_taken 0 streams, ?_⟩
  rintro front stream others message rfl hdelivers
  have hread := reading_delivers hlawful hdelivers
  rw [mem_taken_append_iff (by omega), taken, hread]
  simp only [readsOn_iff hlawful, Nat.zero_add, List.mem_cons, true_or, and_true]

def emptyStream : RecvStream :=
  { reads := [], ending := .finished }

def garbageStream : RecvStream :=
  { reads := [[120]], ending := .finished }

theorem pingStream_delivers : pingStream.Delivers pingJson .ping :=
  ⟨[utf8 pingText], by decide +kernel, by decide +kernel, by decide +kernel⟩

/-- The message after a stream of other bytes is dealt with. -/
theorem handleMessages_processed_garbage :
    (1, Message.ping) ∈ taken pingJson 0 [garbageStream, pingStream] := by
  refine ((handleMessages_processed_iff pingJson_lawful ownerEnv "closed"
    [garbageStream, pingStream]).2 [garbageStream] pingStream [] .ping rfl
      pingStream_delivers).mpr ?_
  intro earlier hearlier
  cases List.mem_singleton.mp hearlier
  have hread : pingJson.fromStr "x" = .error (.invalid "expected value") := rfl
  exact ⟨1, "x", by decide +kernel, by simp [hread]⟩

/-- The loop ends with an empty stream: the ping is not dealt with. -/
theorem handleMessages_empty_stream :
    pingStream.Delivers pingJson .ping ∧
      handleMessages ownerEnv pingJson "closed" [emptyStream, pingStream] = (do
        emit .disconnected
        return) :=
  ⟨pingStream_delivers, rfl⟩

end Osvauld.Network
