import Ramqp.Semantics.Performatives

/-! Frames on a byte stream: the encoders, the incremental decoder and the loop that reads the next frame. -/
namespace Ramqp.Wire

section Encoding

def frameTypeAmqp : UInt8 := 0x00

def frameTypeSasl : UInt8 := 0x01

def frameHeaderLen : Nat := 8

inductive FrameBody where
  | amqp (performative : Performative) (payload : Option Bytes)
  | sasl (frame : SaslFrame)
  | empty

structure Frame where
  channel : UInt16
  body : FrameBody

/-- The header with a placeholder for the size, the body, and the size of both and of what is written separately. -/
def encodeHeader (type : UInt8) (channel : UInt16) (body : Bytes → Bytes) (trailing : Nat) (buf : Bytes) : Bytes :=
  let sizePos := buf.length
  let buf := body (buf ++ be 4 0 ++ [2] ++ [type] ++ be 2 channel.toNat)
  let size := buf.length - sizePos + trailing
  patch buf sizePos (be 4 size)

def encodeAmqpHeader (channel : UInt16) (performative : Performative) (trailing : Nat) (buf : Bytes) : Bytes :=
  encodeHeader frameTypeAmqp channel (encode performative) trailing buf

def encodeAmqpFrame (channel : UInt16) (performative : Performative) (payload : Option Bytes) (buf : Bytes) : Bytes :=
  let buf := encodeAmqpHeader channel performative ((payload.map List.length).getD 0) buf
  match payload with
  | some p => buf ++ p
  | none => buf

def encodeSaslFrame (frame : SaslFrame) (buf : Bytes) : Bytes := encodeHeader frameTypeSasl 0 (encode frame) 0 buf

def encodeEmptyFrame (channel : UInt16) (buf : Bytes) : Bytes :=
  buf ++ be 4 8 ++ [2] ++ [frameTypeAmqp] ++ be 2 channel.toNat

end Encoding

section Decoding

inductive ConnectError where
  | protocolViolation (text : String)
  | peerClosed (text : String)
  | decode (error : DecodeError)

def decodeAmqpBody (body : Bytes) : Except ConnectError FrameBody :=
  if body.isEmpty then .ok .empty
  else match (decode : Decoder Performative) body with
    | .error e => .error (.decode e)
    | .ok (performative,body) => .ok (.amqp performative (if body.isEmpty then none else some body))

def decodeBody (type : UInt8) (body : Bytes) : Except ConnectError FrameBody :=
  if type = frameTypeAmqp then decodeAmqpBody body
  else if type = frameTypeSasl then match (decode : Decoder SaslFrame) body with
    | .error e => .error (.decode e)
    | .ok (frame,_) => .ok (.sasl frame)
  else .error (.protocolViolation ("unknown frame type " ++ hexOctet type))

def decodeWhole (frame : Bytes) : Except ConnectError Frame :=
  let size := frame.length
  let doff := frame.getD 4 0
  let type := frame.getD 5 0
  let channel := UInt16.ofNat (BigEndian.decode ((frame.drop 6).take 2))
  let headerLen := doff.toNat * 4
  if headerLen < frameHeaderLen ∨ size < headerLen then
    .error (.protocolViolation ("invalid data-offset " ++ toString doff.toNat))
  else if size - frameHeaderLen < headerLen - frameHeaderLen then .error (.protocolViolation "truncated extended header")
  else match decodeBody type (frame.drop headerLen) with
    | .error e => .error e
    | .ok body => .ok ⟨channel,body⟩

def decodeFrame (maxFrameSize : Nat) (src : Bytes) : Except ConnectError (Option Frame) × Bytes :=
  if src.length < frameHeaderLen then (.ok none,src)
  else
    let size := BigEndian.decode (src.take 4)
    if size < frameHeaderLen then
      (.error (.protocolViolation ("frame size " ++ toString size ++ " below header length")),src)
    else if maxFrameSize < size then
      (.error (.protocolViolation
        ("frame size " ++ toString size ++ " exceeds max-frame-size " ++ toString maxFrameSize)),src)
    else if src.length < size then (.ok none,src)
    else (some <$> decodeWhole (src.take size),src.drop size)

def closedError (buf : Bytes) : ConnectError :=
  if buf.isEmpty then .peerClosed "connection closed by peer" else .protocolViolation "connection closed mid-frame"

def readFrame (maxFrameSize : Nat) : List Bytes → Bytes → Except ConnectError Frame × Bytes × List Bytes
  | [],buf =>
    match decodeFrame maxFrameSize buf with
    | (.error e,buf) => (.error e,buf,[])
    | (.ok (some frame),buf) => (.ok frame,buf,[])
    | (.ok none,buf) => (.error (closedError buf),buf,[])
  | chunk::stream,buf =>
    match decodeFrame maxFrameSize buf with
    | (.error e,buf) => (.error e,buf,chunk::stream)
    | (.ok (some frame),buf) => (.ok frame,buf,chunk::stream)
    | (.ok none,buf) =>
      if chunk.isEmpty then (.error (closedError buf),buf,stream) else readFrame maxFrameSize stream (buf ++ chunk)

end Decoding

section Stream

inductive Sent where
  | amqp (channel : UInt16) (performative : Performative) (payload : Option Bytes)
  | sasl (frame : SaslFrame)
  | empty (channel : UInt16)

def Sent.write : Sent → Bytes → Bytes
  | amqp channel performative payload => encodeAmqpFrame channel performative payload
  | sasl frame => encodeSaslFrame frame
  | empty channel => encodeEmptyFrame channel

def writeAll (sent : List Sent) : Bytes := sent.foldl (fun buf frame => frame.write buf) []

def Sent.frame : Sent → Frame
  | amqp channel performative payload => ⟨channel,.amqp performative (payload.filter fun p => !p.isEmpty)⟩
  | sasl frame => ⟨0,.sasl frame⟩
  | empty channel => ⟨channel,.empty⟩

inductive Turn where
  | append (chunk : Bytes)
  | decode

structure Reading where
  buffer : Bytes
  frames : List Frame
  errors : List ConnectError

def Reading.turn (maxFrameSize : Nat) (r : Reading) : Turn → Reading
  | .append chunk => { r with buffer := r.buffer ++ chunk }
  | .decode => match decodeFrame maxFrameSize r.buffer with
    | (.error e,buffer) => { r with buffer,errors := r.errors ++ [e] }
    | (.ok none,buffer) => { r with buffer }
    | (.ok (some frame),buffer) => { r with buffer,frames := r.frames ++ [frame] }

def Reading.run (maxFrameSize : Nat) (turns : List Turn) : Reading :=
  turns.foldl (Reading.turn maxFrameSize) ⟨[],[],[]⟩

def arrived : List Turn → Bytes
  | [] => []
  | .append chunk :: turns => chunk ++ arrived turns
  | .decode :: turns => arrived turns

def readFrames (maxFrameSize : Nat) : Nat → List Bytes → Bytes → Except ConnectError (List Frame) × Bytes × List Bytes
  | 0,stream,buf => (.ok [],buf,stream)
  | n + 1,stream,buf => match readFrame maxFrameSize stream buf with
    | (.error e,left) => (.error e,left)
    | (.ok frame,buf,stream) => match readFrames maxFrameSize n stream buf with
      | (.error e,left) => (.error e,left)
      | (.ok frames,left) => (.ok (frame::frames),left)

end Stream

end Ramqp.Wire
