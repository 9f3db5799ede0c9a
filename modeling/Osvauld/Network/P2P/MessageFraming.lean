import Osvauld.Data.Lists
import Osvauld.Network.P2P.ProcessMessage

namespace Osvauld.Network

open Osvauld.Core Data

/-! Messages as the bytes of a stream: what is written, and how it is read. -/

inductive JsonError where
  | eof
  | invalid (message : String)
deriving DecidableEq, Repr

structure SerdeJson where
  toString : Message → Except String String
  fromStr : String → Except JsonError Message

def utf8 (text : String) : Bytes := text.toUTF8.data.toList

def fromUtf8 (bytes : Bytes) : Option String := String.fromUTF8? ⟨bytes.toArray⟩

theorem fromUtf8_utf8 (text : String) : fromUtf8 (utf8 text) = some text := by
  have hbytes : (⟨(utf8 text).toArray⟩ : ByteArray) = text.toByteArray := by
    simp [utf8]
  rw [fromUtf8, hbytes, String.fromUTF8?, dif_pos text.isValidUTF8]
  rfl

theorem utf8_of_fromUtf8 {bytes : Bytes} {text : String}
    (htext : fromUtf8 bytes = some text) : utf8 text = bytes := by
  unfold fromUtf8 String.fromUTF8? at htext
  split at htext
  · cases htext
    simp [utf8, String.fromUTF8]
  · cases htext

/-- What the code takes from `serde_json`: a text is read back, and a text that is cut
off is one whose end was not to be there. -/
structure SerdeJson.Lawful (codec : SerdeJson) : Prop where
  inverse : ∀ message text, codec.toString message = .ok text →
    codec.fromStr text = .ok message
  empty : codec.fromStr "" = .error .eof
  cutOff : ∀ message text front, codec.toString message = .ok text →
    utf8 front <+: utf8 text → front ≠ text → codec.fromStr front = .error .eof

inductive StreamEnd where
  | pending
  | finished
  | failed (message : String)
deriving DecidableEq, Repr

structure RecvStream where
  reads : List Bytes
  ending : StreamEnd
deriving DecidableEq, Repr

/-- Where the message loop stands after a stream: at the next one, at its own end, or
still at the stream. -/
inductive LoopState where
  | accepting
  | stopped
  | waiting
deriving DecidableEq, Repr

variable (env : NetworkEnv) (codec : SerdeJson)

def readStream (ending : StreamEnd) (buffer : Bytes) : List Bytes → Handler LoopState
  | [] =>
      match ending with
      | .pending => pure .waiting
      | .finished => do
          emit .disconnected
          return .stopped
      | .failed message => do
          emit (.error ("Error reading from connection: " ++ message) none
            "message_handler")
          return .stopped
  | [] :: reads => readStream ending buffer reads
  | (byte :: bytes) :: reads =>
      let buffer := buffer ++ byte :: bytes
      match fromUtf8 buffer with
      | none => readStream ending buffer reads
      | some messageStr =>
          match codec.fromStr messageStr with
          | .ok message => do
              handleMessage env message
              return .accepting
          | .error .eof => readStream ending buffer reads
          -- The rest of the stream is given up with the buffer.
          | .error (.invalid _) => pure .accepting

def handleMessages (acceptError : String) : List RecvStream → Handler PUnit
  | [] => emit (.error ("Failed to accept bi-directional stream: " ++ acceptError) none
      "message_handler")
  | stream :: streams => do
      match ← readStream env codec stream.ending [] stream.reads with
      | .accepting => handleMessages acceptError streams
      | .stopped => return
      | .waiting => return

def chunkSize : Nat := 8192

def sendChunks (message : Message) : Except String (List Bytes) :=
  (codec.toString message).map fun serializedMessage =>
    chunks chunkSize (utf8 serializedMessage)

def RecvStream.Carries (stream : RecvStream) (written : List Bytes) : Prop :=
  (∀ chunk ∈ stream.reads, chunk ≠ []) ∧ stream.reads.flatten = written.flatten

def RecvStream.Delivers (stream : RecvStream) (message : Message) : Prop :=
  ∃ written, sendChunks codec message = .ok written ∧ stream.Carries written

inductive Reading where
  | whole (message : Message)
  | givenUp
  | incomplete

def reading (buffer : Bytes) : List Bytes → Reading
  | [] => .incomplete
  | [] :: reads => reading buffer reads
  | (byte :: bytes) :: reads =>
      let buffer := buffer ++ byte :: bytes
      match fromUtf8 buffer with
      | none => reading buffer reads
      | some messageStr =>
          match codec.fromStr messageStr with
          | .ok message => .whole message
          | .error .eof => reading buffer reads
          | .error (.invalid _) => .givenUp

def Reading.act (ending : StreamEnd) : Reading → Handler LoopState
  | whole message => do
      handleMessage env message
      return .accepting
  | givenUp => pure .accepting
  | incomplete => readStream env codec ending [] []

section Framing

variable {env codec} {message : Message} {text : String} {ending : StreamEnd}

theorem readStream_eq (ending : StreamEnd) (buffer : Bytes) (reads : List Bytes) :
    readStream env codec ending buffer reads =
      (reading codec buffer reads).act env codec ending := by
  induction reads generalizing buffer with
  | nil => rfl
  | cons chunk reads ih =>
      cases chunk with
      | nil => exact ih buffer
      | cons byte bytes =>
          rw [readStream, reading]
          cases fromUtf8 (buffer ++ byte :: bytes) with
          | none => exact ih _
          | some messageStr =>
              dsimp only
              cases codec.fromStr messageStr with
              | ok message => rfl
              | error error =>
                  cases error with
                  | eof => exact ih _
                  | invalid message => rfl

theorem SerdeJson.Lawful.ne_empty (hlawful : codec.Lawful)
    (htext : codec.toString message = .ok text) : utf8 text ≠ [] := by
  intro hempty
  have hsame : text = "" := by
    have hdecoded := fromUtf8_utf8 text
    rw [hempty, ← show utf8 "" = [] from rfl, fromUtf8_utf8] at hdecoded
    exact (Option.some.inj hdecoded).symm
  have hread := hlawful.inverse message text htext
  rw [hsame, hlawful.empty] at hread
  cases hread

variable {reads : List Bytes}

section

variable {buffer : Bytes} (hlawful : codec.Lawful) (htext : codec.toString message = .ok text)

include hlawful htext

theorem reading_part {chunk : Bytes} (hchunk : chunk ≠ []) (hpart : buffer ++ chunk <+: utf8 text)
    (hmore : buffer ++ chunk ≠ utf8 text) :
    reading codec buffer (chunk :: reads) = reading codec (buffer ++ chunk) reads := by
  obtain ⟨byte, bytes, rfl⟩ := List.exists_cons_of_ne_nil hchunk
  rw [reading]
  cases hdecoded : fromUtf8 (buffer ++ byte :: bytes) with
  | none => rfl
  | some front =>
      have hfront := utf8_of_fromUtf8 hdecoded
      have hread : codec.fromStr front = .error .eof := by
        refine hlawful.cutOff message text front htext (hfront ▸ hpart) fun hsame => ?_
        exact hmore (hfront ▸ congrArg utf8 hsame)
      simp only [hread]

theorem reading_whole {chunk : Bytes} (hchunk : chunk ≠ []) (hwhole : buffer ++ chunk = utf8 text) :
    reading codec buffer (chunk :: reads) = .whole message := by
  obtain ⟨byte, bytes, rfl⟩ := List.exists_cons_of_ne_nil hchunk
  rw [reading, hwhole, fromUtf8_utf8]
  simp only [hlawful.inverse message text htext]

theorem reading_rest (hreads : ∀ chunk ∈ reads, chunk ≠ []) (hmore : buffer ≠ utf8 text)
    (hrest : buffer ++ reads.flatten = utf8 text) :
    reading codec buffer reads = .whole message := by
  induction reads generalizing buffer with
  | nil =>
      rw [List.flatten_nil, List.append_nil] at hrest
      exact absurd hrest hmore
  | cons chunk reads ih =>
      have hchunk := hreads chunk List.mem_cons_self
      rw [List.flatten_cons, ← List.append_assoc] at hrest
      by_cases hwhole : buffer ++ chunk = utf8 text
      · exact reading_whole hlawful htext hchunk hwhole
      · rw [reading_part hlawful htext hchunk ⟨_, hrest⟩ hwhole]
        exact ih (fun other hother => hreads other (List.mem_cons_of_mem _ hother))
          hwhole hrest

end

theorem reading_delivers (hlawful : codec.Lawful) {stream : RecvStream}
    (hdelivers : stream.Delivers codec message) :
    reading codec [] stream.reads = .whole message := by
  obtain ⟨written, hwritten, hchunks, hbytes⟩ := hdelivers
  unfold sendChunks at hwritten
  cases htext : codec.toString message with
  | error error =>
      rw [htext] at hwritten
      cases hwritten
  | ok text =>
      rw [htext] at hwritten
      cases hwritten
      rw [flatten_chunks (by decide)] at hbytes
      exact reading_rest hlawful htext hchunks (hlawful.ne_empty htext).symm hbytes

/-- Each message that was sent is dealt with once, in the order the streams are
accepted, whatever the chunks that its text comes in. -/
theorem handleMessages_delivered (hlawful : codec.Lawful) {messages : List Message}
    {streams : List RecvStream} (acceptError : String) (others : List RecvStream)
    (hdelivered : List.Forall₂ (fun stream message => stream.Delivers codec message)
      streams messages) :
    handleMessages env codec acceptError (streams ++ others) = (do
      Program.forEach messages (handleMessage env)
      handleMessages env codec acceptError others) := by
  induction hdelivered with
  | nil => rfl
  | @cons stream message streams messages hstream _ ih =>
      rw [List.cons_append, handleMessages, readStream_eq, reading_delivers hlawful hstream,
        Reading.act, Program.forEach, Program.bind_assoc, Program.bind_assoc]
      simp only [Program.pure_bind, ih]

end Framing

def pingText : String := "\"Ping\""

def pingJson : SerdeJson :=
  { toString := fun message =>
      match message with
      | .ping => .ok pingText
      | _ => .error "no text"
    fromStr := fun text =>
      if text = pingText then .ok .ping
      else if (utf8 text).isPrefixOf (utf8 pingText) then .error .eof
      else .error (.invalid "expected value") }

theorem pingJson_lawful : pingJson.Lawful where
  inverse := by
    intro message text htext
    cases message <;> cases htext
    rfl
  empty := rfl
  cutOff := by
    intro message text front htext hfront hmore
    have hping : text = pingText := by
      cases message <;> cases htext
      rfl
    subst hping
    simp [pingJson, hmore, hfront]

def pingStream : RecvStream :=
  { reads := [[34], [80, 105], [110, 103, 34]], ending := .finished }

theorem handleMessages_ping :
    handleMessages ownerEnv pingJson "closed" ([pingStream] ++ []) = (do
      Program.forEach [.ping] (handleMessage ownerEnv)
      handleMessages ownerEnv pingJson "closed" []) := by
  refine handleMessages_delivered pingJson_lawful "closed" [] (.cons ⟨[utf8 pingText], ?_, ?_, ?_⟩
    .nil)
  · decide +kernel
  · decide +kernel
  · decide +kernel

end Osvauld.Network
