import Postroom.Submission.Client

namespace Postroom.Submission

/-!
# Prepared peers

A prepared peer greets its client and answers each line by the next of some
replies that were written down beforehand. A greeting or reply that does not
end a line, and the end of the replies, are the last thing it sends; it keeps
noting what the client writes.
-/

/-- A peer that answers from a list. -/
structure Prepared where
  greeting : List UInt8
  replies : List (List UInt8)
  /-- Whether the peer has stopped sending. -/
  silent : Bool
  /-- The bytes of a line that has not ended yet. -/
  pending : List UInt8
  /-- The lines that were received, each with its line feed. -/
  seen : List String

namespace Prepared

/-- The peer that gives a greeting and some replies. -/
def ofReplies
    (greeting : List UInt8)
    (replies : List (List UInt8)) :
    Prepared :=
  ⟨greeting, replies, false, [], []⟩

/-- Bytes that are the last ones unless they end a line. -/
def sentOf (bytes : List UInt8) : Sent :=
  ⟨bytes, bytes.getLast? != some Wire.lineFeed⟩

/-- What comes behind another sending. -/
def andThen (first second : Sent) : Sent :=
  ⟨first.bytes ++ second.bytes, first.closes || second.closes⟩

/-- Answer one line, which is noted. -/
def answerLine
    (peer : Prepared)
    (line : List UInt8) :
    Sent × Prepared :=
  let noted := { peer with seen := peer.seen ++ [Text.decode line] }
  if peer.silent then
    (⟨[], true⟩, noted)
  else
    match peer.replies with
    | [] =>
        (⟨[], true⟩, { noted with silent := true })
    | reply :: rest =>
        let sent := sentOf reply
        (sent, { noted with replies := rest, silent := sent.closes })

/-- Answer every line that some bytes complete. -/
def receive
    (peer : Prepared) :
    List UInt8 →
    Sent × Prepared
  | [] =>
      (⟨[], peer.silent⟩, peer)
  | byte :: rest =>
      if byte = Wire.lineFeed then
        let (sent, next) :=
          { peer with pending := [] }.answerLine
            (byte :: peer.pending).reverse
        let (later, last) := receive next rest
        (andThen sent later, last)
      else
        receive { peer with pending := byte :: peer.pending } rest

/-- Send the greeting. -/
def greet (peer : Prepared) : Sent × Prepared :=
  let sent := sentOf peer.greeting
  (sent, { peer with silent := sent.closes })

end Prepared

/-- How a prepared peer behaves. -/
def preparedPeer : Peer Prepared where
  greet :=
    Prepared.greet
  receive :=
    Prepared.receive

end Postroom.Submission
