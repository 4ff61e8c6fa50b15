import SupportProxy.WebSocket.Frames
import SupportProxy.Library.Search

/-! # The WebSocket of a connection

`class WebSocket` on what its transport answers, and the engineer slot of a TCP connection on a
stream of which more and more has arrived. OpenSSL's digest of the handshake is a parameter. -/

namespace SupportProxy

open ByteLayout Search

/-- The bytes of a text. -/
def ascii (text : String) : List UInt8 := text.toList.map fun letter => UInt8.ofNat letter.toNat

/-- What `::recv`, or `SSL_accept` and `SSL_read`, answer. -/
inductive ReadAnswer
  | data (bytes : List UInt8)
  | again
  | eof
  | error
deriving DecidableEq

/-- What `::send` or `SSL_write` answer. -/
inductive WriteAnswer
  | all
  | part (count : Nat)
  | again
  | error
deriving DecidableEq

structure WebSocket where
  fd : Option Nat
  isSSL : Bool
  /-- the first `npending` bytes of `pending` -/
  pending : List UInt8
  doneHeaders : Bool
  /-- the first `handshake_len` bytes of `handshake_buf` -/
  handshake : List UInt8
  handshakeSent : Nat

namespace WebSocket

/-- `ws_prefix` -/
def wsPrefix : List UInt8 := ascii "GET / HTTP/1.1"

/-- `wss_prefix` -/
def wssPrefix : List UInt8 := [0x16, 0x03, 0x01]

/-- The bytes peeked open a TLS connection. -/
def looksSSL (peeked : List UInt8) : Bool := decide (wssPrefix <+: peeked)

/-- `WebSocket::detect` on up to 14 bytes. The buffer is zeroed, so that fewer bytes than the
prefix has never match. -/
def detect (peeked : List UInt8) : Bool := looksSSL peeked || decide (wsPrefix <+: peeked)

/-- A `WebSocket` before its constructor reads. -/
def fresh (fd : Nat) (isSSL : Bool) : WebSocket := ⟨some fd, isSSL, [], false, [], 0⟩

/-- `fill_pending`; `read` answers for the space there is. -/
def fillPending (read : Nat → ReadAnswer) (ws : WebSocket) : WebSocket :=
  if ws.fd.isSome ∧ 0 < 1023 - ws.pending.length then
    match read (1023 - ws.pending.length) with
    | .data bytes => { ws with pending := ws.pending ++ bytes }
    | .again => ws
    | .eof | .error => { ws with fd := none }
  else ws

/-- The loop of `send_handshake`: the bytes sent, and whether the transport failed. -/
def writeHandshake (total : Nat) : List WriteAnswer → Nat → Nat × Bool
  | answers, sent =>
      if total ≤ sent then (sent, false)
      else
        match answers with
        | [] | .again :: _ => (sent, false)
        | .all :: _ => (total, false)
        | .part count :: rest => writeHandshake total rest (sent + count)
        | .error :: _ => (sent, true)

/-- The response; `digest` is the base64 text of the SHA-1. -/
def response (digest : List UInt8 → List UInt8) (key : List UInt8) : List UInt8 :=
  ascii "HTTP/1.1 101 Switching Protocols\r\nUpgrade: websocket\r\nConnection: Upgrade\r\n" ++
    ascii "Sec-WebSocket-Accept: " ++
    digest (key ++ ascii "258EAFA5-E914-47DA-95CA-C5AB0DC85B11") ++ ascii "\r\n\r\n"

/-- `send_handshake` -/
def sendHandshake (digest : List UInt8 → List UInt8) (answers : List WriteAnswer)
    (key : List UInt8) (ws : WebSocket) : WebSocket × Bool :=
  let ws :=
    if ws.handshake = [] then { ws with handshake := response digest key, handshakeSent := 0 }
    else ws
  let (sent, failed) := writeHandshake ws.handshake.length answers ws.handshakeSent
  ({ ws with handshakeSent := sent, fd := if failed then none else ws.fd },
    !failed && decide (sent = ws.handshake.length))

def keyMarker : List UInt8 := ascii "Sec-WebSocket-Key: "

def lineEnd : List UInt8 := ascii "\r\n"

/-- Where the key begins in the headers, and how long it is. -/
def findKey (headers : List UInt8) : Option (Nat × Nat) :=
  (search keyMarker headers).bind fun found =>
    (search lineEnd (headers.drop (found + keyMarker.length))).map fun length =>
      (found + keyMarker.length, length)

/-- `check_headers` -/
def checkHeaders (digest : List UInt8 → List UInt8) (answers : List WriteAnswer) (ws : WebSocket) :
    WebSocket :=
  let headers := ws.pending.takeWhile (· ≠ 0)
  match findKey headers with
  | none => ws
  | some (start, length) =>
      let (ws, sent) := sendHandshake digest answers (slice start length headers) ws
      if sent then { ws with doneHeaders := true, pending := [] } else ws

/-- What `recv` returns. -/
inductive Received
  /-- -1 -/
  | error
  /-- 0: there is no complete frame -/
  | nothing
  /-- a frame with its bytes on the stream -/
  | frame (bytes : List UInt8) (used : Nat)
  /-- the copy left the buffer -/
  | overrun
deriving DecidableEq

/-- `WebSocket::recv` into a buffer of `n` bytes -/
def recv (digest : List UInt8 → List UInt8) (read : Nat → ReadAnswer) (answers : List WriteAnswer)
    (n : Nat) (ws : WebSocket) : Received × WebSocket :=
  let ws := ws.fillPending read
  if ws.fd = none then (.error, ws)
  else
    let ws := if ws.doneHeaders then ws else ws.checkHeaders digest answers
    match decode ws.pending with
    | .incomplete => (.nothing, ws)
    | .overrun => (.overrun, ws)
    | .frame payload used =>
        (.frame (payload.take n) used, { ws with pending := ws.pending.drop used })

end WebSocket

/-- What has arrived of a stream at each call of one turn of the loop, and for a TLS connection
how much the library takes of it and what it gives. -/
structure Arrival where
  peek : Nat
  peekAgain : Nat
  fill : Nat
  read : Nat
  tlsFill : Nat × ReadAnswer
  tlsRead : Nat × ReadAnswer

/-- The slot of a TCP engineer, with what happened on its stream. -/
structure Engineer where
  ws : Option WebSocket
  tcpActive : Bool
  /-- `c2.close()` was called -/
  closed : Bool
  /-- how much has been read from the socket -/
  taken : Nat
  /-- where on the stream a `WebSocket` was made -/
  openings : List Nat
  /-- where on the stream the headers were done, and decoding begins -/
  responses : List Nat
  /-- where on the stream the frames began, with what `recv` returned -/
  frames : List (Nat × List UInt8)
  /-- what was read as it is -/
  raw : List UInt8
  /-- a copy left the buffer -/
  overrun : Bool

namespace Engineer

/-- An accepted connection. -/
def accepted : Engineer := ⟨none, false, false, 0, [], [], [], [], false⟩

section Stream

variable (digest : List UInt8 → List UInt8) (stream : List UInt8)

/-- What a socket has to read. -/
def unread (arrived : Nat) (engineer : Engineer) : List UInt8 :=
  (stream.take arrived).drop engineer.taken

/-- `::recv` on the socket -/
def readSocket (arrived : Nat) (engineer : Engineer) (space : Nat) : ReadAnswer :=
  if engineer.unread stream arrived = [] then .again
  else .data ((engineer.unread stream arrived).take space)

/-- What the transport of a `WebSocket` answers. -/
def answer (arrived : Nat) (tls : Nat × ReadAnswer) (engineer : Engineer) (ws : WebSocket) :
    Nat → ReadAnswer :=
  if ws.isSSL then fun _ => tls.2 else engineer.readSocket stream arrived

/-- How much `fill_pending` reads from the socket. -/
def fills (arrived : Nat) (tls : Nat × ReadAnswer) (engineer : Engineer) (ws : WebSocket) : Nat :=
  if ws.isSSL then tls.1
  else
    (ws.fillPending (engineer.answer stream arrived tls ws)).pending.length - ws.pending.length

/-- The headers are done now. -/
def noteDone (before : Bool) (ws : WebSocket) (engineer : Engineer) : Engineer :=
  if !before && ws.doneHeaders then
    { engineer with responses := engineer.responses ++ [engineer.taken] }
  else engineer

/-- `new WebSocket(c2.sock)` -/
def openWebSocket (fd : Nat) (arrival : Arrival) (engineer : Engineer) : Engineer :=
  let ws := WebSocket.fresh fd
    (WebSocket.looksSSL ((engineer.unread stream arrival.peekAgain).take 14))
  let filled := ws.fillPending (engineer.answer stream arrival.fill arrival.tlsFill ws)
  let ready := filled.checkHeaders digest [.all]
  { engineer with
    ws := some ready
    openings := engineer.openings ++ [engineer.taken]
    taken := engineer.taken + engineer.fills stream arrival.fill arrival.tlsFill ws }.noteDone
      false ready

/-- `main_loop` detects a WebSocket in the bytes to read. -/
def detects (arrival : Arrival) (engineer : Engineer) : Bool :=
  !engineer.tcpActive && WebSocket.detect ((engineer.unread stream arrival.peek).take 14)

/-- `c2.ws->recv` and what the loop does with it. -/
def receiveFrame (arrival : Arrival) (ws : WebSocket) (engineer : Engineer) : Engineer :=
  let (received, next) :=
    ws.recv digest (engineer.answer stream arrival.read arrival.tlsRead ws) [.all] 10239
  let read := { engineer with
    ws := some next
    taken := engineer.taken + engineer.fills stream arrival.read arrival.tlsRead ws }.noteDone
      ws.doneHeaders next
  match received with
  | .error => { read with ws := none, tcpActive := false, closed := true }
  | .nothing => read
  | .overrun => { read with overrun := true }
  | .frame bytes used =>
      { read with
        tcpActive := read.tcpActive || !bytes.isEmpty
        frames := read.frames ++ [(read.taken - next.pending.length - used, bytes)] }

/-- `recv` on the socket itself. -/
def receiveRaw (arrival : Arrival) (engineer : Engineer) : Engineer :=
  let bytes := (engineer.unread stream arrival.read).take 10239
  if bytes = [] then { engineer with tcpActive := false, closed := true }
  else
    { engineer with
      tcpActive := true
      taken := engineer.taken + bytes.length
      raw := engineer.raw ++ bytes }

/-- The socket is readable: what `main_loop` does up to the bytes it has read. -/
def wake (fd : Nat) (arrival : Arrival) (engineer : Engineer) : Engineer :=
  let engineer :=
    if engineer.detects stream arrival then engineer.openWebSocket digest stream fd arrival
    else engineer
  match engineer.ws with
  | some ws => engineer.receiveFrame digest stream arrival ws
  | none => engineer.receiveRaw stream arrival

end Stream

end Engineer

end SupportProxy
