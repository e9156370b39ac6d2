import NrfSdk.Machine.Memory

namespace Dl

open Machine

def minSizeIdentifyBuf : Nat := 32
def tlsRangeMax : Nat := 2048

def httpResponseOk : Nat := 200
def httpResponsePartialContent : Nat := 206
def httpResponseMovedPermanently : Nat := 301
def httpResponseFound : Nat := 302
def httpResponseSeeOther : Nat := 303
def httpResponseTemporaryRedirect : Nat := 307
def httpResponsePermanentRedirect : Nat := 308

/-- The bytes of an ASCII text, as the C string literals of the source hold them. -/
def bytes (text : String) : List UInt8 := text.toList.map Char.toUInt8

def cr : UInt8 := 13
def lf : UInt8 := 10

def isLineEnd (byte : UInt8) : Bool := byte == cr || byte == lf

/-- A read or write of cfg.buf at an offset from its start; pointer walks can make it negative. -/
structure BufAccess where
  offset : Int
  width : Nat
  kind : AccessKind
  deriving DecidableEq, Repr

def BufAccess.Within (bufSize : Nat) (access : BufAccess) : Prop :=
  0 ≤ access.offset ∧ access.offset + access.width ≤ bufSize

instance (bufSize : Nat) (access : BufAccess) : Decidable (access.Within bufSize) :=
  inferInstanceAs (Decidable (_ ∧ _))

/-- The fields of struct transport_params_http that the download path reads, with
sock.proto == IPPROTO_TLS_1_2 && !set_native_tls && CONFIG_SOC_SERIES_NRF91X as one flag. -/
structure TransportParamsHttp where
  connectionClose : Bool
  ranged : Bool
  rangedProgress : Nat
  statusCode : Nat
  hasEnd : Bool
  newDataReq : Bool
  redirects : Nat
  tlsForceRange : Bool
  deriving DecidableEq, Repr

/-- The downloader as the HTTP transport sees it. cfg.buf is a list of cfg.buf_size bytes; the data
events and the requests sent are kept in order, and every access to cfg.buf is traced. -/
structure Downloader where
  buf : List UInt8
  bufOffset : Nat
  fileSize : Nat
  progress : Nat
  complete : Bool
  rangeOverride : Nat
  redirectsMax : Nat
  hostname : List UInt8
  file : List UInt8
  http : TransportParamsHttp
  fragments : List (List UInt8)
  requests : List (List UInt8)
  trace : List BufAccess
  deriving DecidableEq, Repr

/-- Where a redirect points, as parse_protocol, dl_parse_url_host and dl_parse_url_file read it. -/
structure UrlTarget where
  hostname : List UInt8
  file : List UInt8
  tlsForceRange : Bool
  deriving DecidableEq, Repr

/-- What lies outside this file: the socket's answer to a request (an error or none), and the URL
parsers applied to a redirect location (none when one of them fails). -/
structure HttpEnv where
  send : List UInt8 → Option Errno
  parseLocation : List UInt8 → Option UrlTarget

abbrev RecvResult := Except Errno (List UInt8)

abbrev Http := ExceptT Errno (StateM Downloader)

/-! Byte-level helpers. Memory outside cfg.buf reads as 0 in the model; the trace records such
reads. -/

def byteAt (buf : List UInt8) (pos : Int) : UInt8 := if 0 ≤ pos then buf.getD pos.toNat 0 else 0

def isSpace (byte : UInt8) : Bool := byte == 32 || (9 ≤ byte && byte ≤ 13)

def isDigit (byte : UInt8) : Bool := 48 ≤ byte && byte ≤ 57

def toLower (byte : UInt8) : UInt8 := if 65 ≤ byte ∧ byte ≤ 90 then byte + 32 else byte

def matchesAt (buf : List UInt8) (pos : Int) (needle : List UInt8) : Bool :=
  (List.range needle.length).all fun i => byteAt buf (pos + i) == needle.getD i 0

def strnstrScan (buf needle : List UInt8) : Nat → Int → Option Int × Int
  | 0, pos => (none, pos)
  | limit + 1, pos =>
    if byteAt buf pos = 0 then (none, pos + 1)
    else if needle.length ≤ limit + 1 ∧ matchesAt buf pos needle then (some pos, pos + needle.length)
    else strnstrScan buf needle limit (pos + 1)

/-- strstr for a one-byte needle, with no bound: it stops at the byte or at a NUL. The fuel is only
there to make the scan total; the model's NUL past the end of the buffer stops it first. -/
def strchrScan (buf : List UInt8) (byte : UInt8) : Nat → Int → Option Int × Int
  | 0, pos => (none, pos)
  | fuel + 1, pos =>
    if byteAt buf pos = byte then (some pos, pos + 1)
    else if byteAt buf pos = 0 then (none, pos + 1)
    else strchrScan buf byte fuel (pos + 1)

def skipSpace (buf : List UInt8) : Nat → Int → Int
  | 0, pos => pos
  | fuel + 1, pos => if isSpace (byteAt buf pos) then skipSpace buf fuel (pos + 1) else pos

def digitsFrom (buf : List UInt8) : Nat → Int → Nat → Nat × Int
  | 0, pos, value => (value, pos)
  | fuel + 1, pos, value =>
    if isDigit (byteAt buf pos) then digitsFrom buf fuel (pos + 1) (10 * value + (byteAt buf pos - 48).toNat)
    else (value, pos)

def scanNumber (buf : List UInt8) (pos : Int) : Bool × Nat × Int :=
  let fuel := buf.length + 2
  let pos := skipSpace buf fuel pos
  let sign := byteAt buf pos
  let negative := sign == 45
  let pos := if sign == 43 || sign == 45 then pos + 1 else pos
  let (value, stop) := digitsFrom buf fuel pos 0
  (negative, value, stop + 1)

/-- strtoul in base 10 with a 32-bit unsigned long: an overflow gives ULONG_MAX, a sign negates. -/
def strtoulValue (negative : Bool) (value : Nat) : Nat :=
  if value ≥ 2 ^ 32 then 2 ^ 32 - 1 else if negative then u32 (-(value : Int)) else value

/-- atoi as (int)strtol with a 32-bit long, which saturates. -/
def atoiValue (negative : Bool) (value : Nat) : Int :=
  if negative then max (-(value : Int)) (-2 ^ 31) else min (value : Int) (2 ^ 31 - 1)

/-! The transport's accesses to cfg.buf, each recorded in the trace. -/

def touch (access : BufAccess) : Http Unit :=
  modify fun dl => { dl with trace := dl.trace ++ [access] }

def modifyHttp (update : TransportParamsHttp → TransportParamsHttp) : Http Unit :=
  modify fun dl => { dl with http := update dl.http }

def strnstr (pos : Int) (limit : Nat) (needle : List UInt8) : Http (Option Int) := do
  let (found, stop) := strnstrScan (← get).buf needle limit pos
  touch ⟨pos, (stop - pos).toNat, .read⟩
  return found

def strstrColon (pos : Int) : Http (Option Int) := do
  let dl ← get
  let (found, stop) := strchrScan dl.buf 58 (dl.buf.length + 1) pos
  touch ⟨pos, (stop - pos).toNat, .read⟩
  return found

def strtoul (pos : Int) : Http Nat := do
  let (negative, value, stop) := scanNumber (← get).buf pos
  touch ⟨pos, (stop - pos).toNat, .read⟩
  return strtoulValue negative value

def atoi (pos : Int) : Http Int := do
  let (negative, value, stop) := scanNumber (← get).buf pos
  touch ⟨pos, (stop - pos).toNat, .read⟩
  return atoiValue negative value

def cString (buf : List UInt8) : Nat → Int → List UInt8
  | 0, _ => []
  | fuel + 1, pos => if byteAt buf pos = 0 then [] else byteAt buf pos :: cString buf fuel (pos + 1)

def lowerStep (i : Nat) (state : List UInt8 × Bool) : List UInt8 × Bool :=
  let (buf, value) := state
  let byte := byteAt buf i
  let value := if isLineEnd byte then false else value
  if value then (buf, value)
  else if byte = 58 then (buf, true)
  else (buf.set i (toLower byte), value)

def backToLineEnd (buf : List UInt8) : Nat → Int → Int × List BufAccess
  | 0, q => (q, [])
  | fuel + 1, q =>
    if q > 0 then
      let read : BufAccess := ⟨q, 1, .read⟩
      if isLineEnd (byteAt buf q) then (q, [read])
      else
        let (stop, reads) := backToLineEnd buf fuel (q - 1)
        (stop, read :: reads)
    else (q, [])

def backOverLineEnds (buf : List UInt8) : Nat → Int → Int × List BufAccess
  | 0, q => (q, [])
  | fuel + 1, q =>
    let read : BufAccess := ⟨q - 1, 1, .read⟩
    if isLineEnd (byteAt buf (q - 1)) then
      let (stop, reads) := backOverLineEnds buf fuel (q - 1)
      (stop, read :: reads)
    else (q, [read])

def isRedirect (status : Nat) : Bool :=
  status == httpResponseMovedPermanently || status == httpResponseFound || status == httpResponseSeeOther ||
    status == httpResponseTemporaryRedirect || status == httpResponsePermanentRedirect

/-- The redirect branch: the Location line, once it is complete, is cut at its CR, parsed, and
ends the download with -ECONNRESET, or -EMLINK past the redirect limit. -/
def followLocation (env : HttpEnv) (parseLen : Nat) : Http Unit := do
  let some p ← strnstr 0 parseLen (bytes "\r\nlocation:") | return
  let some q ← strnstr (p + 1) (u32 ((parseLen : Int) - (p + 1))) (bytes "\r\n") | return
  let p := p + (bytes "\r\nlocation: ").length
  modify fun dl => { dl with buf := dl.buf.set q.toNat 0 }
  touch ⟨q, 1, .write⟩
  let dl ← get
  let url := cString dl.buf (dl.buf.length + 1) p
  touch ⟨p, url.length + 1, .read⟩
  let some target := env.parseLocation url | throw .EBADMSG
  modify fun dl => { dl with hostname := target.hostname, file := target.file }
  modifyHttp fun http => { http with tlsForceRange := target.tlsForceRange, redirects := u8 (http.redirects + 1) }
  let dl ← get
  if dl.http.redirects > dl.redirectsMax then throw .EMLINK
  throw .ECONNRESET

def fileSizeField (parseLen : Nat) : Http (Option Int) := do
  if (← get).http.ranged then
    let some p ← strnstr 0 parseLen (bytes "\r\ncontent-range") | return none
    let some p ← strnstr p (u32 ((parseLen : Int) - p)) (bytes "/") | return none
    let some _ ← strnstr p (u32 ((parseLen : Int) - p)) (bytes "\r\n") | return none
    return some p
  let some p ← strnstr 0 parseLen (bytes "\r\ncontent-length") | return none
  let some p ← strstrColon p | return none
  let some _ ← strnstr p (u32 ((parseLen : Int) - p)) (bytes "\r\n") | return none
  modify fun dl => { dl with fileSize := dl.progress }
  return some p

def readFileSize (parseLen : Nat) : Http Unit := do
  if (← get).fileSize ≠ 0 then return
  let some p ← fileSizeField parseLen | return
  let size ← atoi (p + 1)
  modify fun dl => { dl with fileSize := u32 (dl.fileSize + size) }

def httpHeaderParse (env : HttpEnv) (bufLen : Nat) : Http Nat := do
  let parseLen ← match ← strnstr 0 bufLen (bytes "\r\n\r\n") with
    | some p => do
      modifyHttp fun http => { http with hasEnd := true }
      pure (p + 4).toNat
    | none => pure bufLen
  -- header names are lowercased, values are not
  modify fun dl => { dl with buf := (forRange parseLen lowerStep (dl.buf, false)).1 }
  touch ⟨0, parseLen, .read⟩
  touch ⟨0, parseLen, .write⟩
  if let some p ← strnstr 0 parseLen (bytes "http/1.1 ") then
    if (← strnstr p (u32 ((parseLen : Int) - p)) (bytes "\r\n")).isSome then
      let status ← strtoul (p + (bytes "http/1.1 ").length)
      modifyHttp fun http => { http with statusCode := status }
  if isRedirect (← get).http.statusCode then followLocation env parseLen
  readFileSize parseLen
  if (← strnstr 0 parseLen (bytes "\r\nconnection: close")).isSome then
    modifyHttp fun http => { http with connectionClose := true }
  let dl ← get
  if dl.http.hasEnd then
    if dl.http.statusCode = 0 then throw .EBADMSG
    let expectedStatus := if dl.http.ranged || dl.progress ≠ 0 then httpResponsePartialContent else httpResponseOk
    if dl.http.statusCode ≠ expectedStatus then throw .EBADMSG
    if dl.fileSize = 0 then throw .EBADMSG
    return parseLen
  -- an incomplete header: keep the last partial line and the line ends before it
  let (q, reads) := backToLineEnd dl.buf (bufLen + 1) bufLen
  let (q, reads') := backOverLineEnds dl.buf (bufLen + 2) q
  modify fun dl => { dl with trace := dl.trace ++ reads ++ reads' }
  return q.toNat

def httpParse (env : HttpEnv) (len : Nat) : Http Nat := do
  if (← get).http.hasEnd then
    -- forward the offset so that data accumulates
    modify fun dl => { dl with bufOffset := len }
    return len
  if len = 0 then throw .ECONNRESET
  let parsedLen ← httpHeaderParse env len
  if parsedLen = len then
    modify fun dl => { dl with bufOffset := 0 }
    return 0
  let len := if parsedLen ≠ 0 then len - parsedLen else len
  if parsedLen ≠ 0 then
    -- keep the remaining payload
    modify fun dl => { dl with buf := storeBytes dl.buf 0 ((dl.buf.drop parsedLen).take len), bufOffset := len }
    touch ⟨parsedLen, len, .read⟩
    touch ⟨0, len, .write⟩
  let dl ← get
  if ¬ dl.http.hasEnd then
    if dl.buf.length = dl.bufOffset then throw .E2BIG
    return 0
  return len

def decimal (n : Nat) : List UInt8 := (Nat.toDigits 10 n).map Char.toUInt8

def httpGet (file hostname : List UInt8) : List UInt8 :=
  bytes "GET /" ++ file ++ bytes " HTTP/1.1\r\nHost: " ++ hostname ++ bytes "\r\nConnection: keep-alive\r\n\r\n"

def httpGetOffset (file hostname : List UInt8) (start : Nat) : List UInt8 :=
  bytes "GET /" ++ file ++ bytes " HTTP/1.1\r\nHost: " ++ hostname ++ bytes "\r\nRange: bytes=" ++ decimal start ++
    bytes "-\r\nConnection: keep-alive\r\n\r\n"

def httpGetRange (file hostname : List UInt8) (start stop : Nat) : List UInt8 :=
  bytes "GET /" ++ file ++ bytes " HTTP/1.1\r\nHost: " ++ hostname ++ bytes "\r\nRange: bytes=" ++ decimal start ++
    bytes "-" ++ decimal stop ++ bytes "\r\nConnection: keep-alive\r\n\r\n"

def snprintf (text : List UInt8) : Http Nat := do
  let size := (← get).buf.length
  if size ≠ 0 then
    modify fun dl => { dl with buf := storeBytes dl.buf 0 (text.take (size - 1) ++ [0]) }
    touch ⟨0, min (text.length + 1) size, .write⟩
  return text.length

def httpGetRequestSend (env : HttpEnv) : Http Unit := do
  modifyHttp fun http => { http with hasEnd := false }
  let dl ← get
  -- nRF91 series TLS decodes about 2 kB at once
  if dl.http.tlsForceRange then
    if dl.rangeOverride > tlsRangeMax then modify fun dl => { dl with rangeOverride := tlsRangeMax }
    else if dl.rangeOverride = 0 then modify fun dl => { dl with rangeOverride := tlsRangeMax }
  let dl ← get
  let len ← if dl.rangeOverride ≠ 0 then do
      let off := u32 (dl.progress + dl.rangeOverride - 1)
      -- no bytes past the end of the file are requested
      let off := if dl.fileSize ≠ 0 then min off (u32 ((dl.fileSize : Int) - 1)) else off
      let len ← snprintf (httpGetRange dl.file dl.hostname dl.progress off)
      modifyHttp fun http => { http with ranged := true, rangedProgress := 0 }
      pure len
    else if dl.progress ≠ 0 then do
      let len ← snprintf (httpGetOffset dl.file dl.hostname dl.progress)
      modifyHttp fun http => { http with ranged := false }
      pure len
    else do
      let len ← snprintf (httpGet dl.file dl.hostname)
      modifyHttp fun http => { http with ranged := false }
      pure len
  if len > (← get).buf.length then throw .ENOMEM
  let request := (← get).buf.take len
  touch ⟨0, len, .read⟩
  modify fun dl => { dl with requests := dl.requests ++ [request] }
  if let some err := env.send request then throw err

/-- The answer to a recv error: a shorter range after -EMSGSIZE, a reconnect after the peer closed. -/
def recvFailed (err : Errno) : Http Unit := do
  let dl ← get
  if err = .EMSGSIZE ∧ dl.rangeOverride ≠ 0 then
    let rangeOverride := u32 ((dl.rangeOverride : Int) - if dl.rangeOverride > 256 then 128 else 8)
    modify fun dl => { dl with rangeOverride := rangeOverride }
    if rangeOverride ≤ 8 then throw .EMSGSIZE
    throw .ECONNRESET
  if dl.http.connectionClose then throw .ECONNRESET
  throw err

def dlHttpDownload (env : HttpEnv) (recv : RecvResult) : Http Unit := do
  if (← get).http.newDataReq then
    modify fun dl => { dl with bufOffset := 0 }
    tryCatch (httpGetRequestSend env) fun _ => throw .ECONNRESET
    modifyHttp fun http => { http with newDataReq := false }
  let dl ← get
  match recv with
  | .error err => recvFailed err
  | .ok chunk =>
    -- recv stores at most the free space; the rest would stay in the socket
    let received := chunk.take (dl.buf.length - dl.bufOffset)
    modify fun dl => { dl with buf := storeBytes dl.buf dl.bufOffset received }
    touch ⟨dl.bufOffset, received.length, .write⟩
    let dataLen ← httpParse env (received.length + dl.bufOffset)
    let dl ← get
    let expectedLen := min minSizeIdentifyBuf (u32 ((dl.fileSize : Int) - dl.progress))
    if dataLen < expectedLen then
      -- wait for more data after the header, and fail if the peer closed meanwhile
      if received.length > 0 then return else throw .ECONNRESET
    modify fun dl => { dl with progress := u32 (dl.progress + dataLen) }
    if dataLen ≠ 0 then
      touch ⟨0, dataLen, .read⟩
      modify fun dl => { dl with fragments := dl.fragments ++ [dl.buf.take dataLen] }
    if dl.http.ranged then
      modifyHttp fun http => { http with rangedProgress := u32 (http.rangedProgress + dataLen) }
      let dl ← get
      if dl.http.rangedProgress ≥ dl.rangeOverride then modifyHttp fun http => { http with newDataReq := true }
    let dl ← get
    if dl.progress = dl.fileSize then
      modify fun dl => { dl with complete := true }
      modifyHttp fun http => { http with newDataReq := true }
    modify fun dl => { dl with bufOffset := 0 }
    if (← get).complete then return
    if received.length > 0 then return else throw .ECONNRESET

def httpSessionStart (buf hostname file : List UInt8) (rangeOverride redirectsMax : Nat) (tlsForceRange : Bool) :
    Downloader :=
  { buf, bufOffset := 0, fileSize := 0, progress := 0, complete := false, rangeOverride, redirectsMax, hostname,
    file, http := ⟨false, false, 0, 0, false, true, 0, tlsForceRange⟩, fragments := [], requests := [], trace := [] }

/-- The download thread's calls, one recv each, until one fails or the download is complete. -/
def dlHttpDownloadRun (env : HttpEnv) : List RecvResult → Downloader → Except Errno Unit × Downloader
  | [], dl => (.ok (), dl)
  | recv :: rest, dl =>
    match ((dlHttpDownload env recv).run).run dl with
    | (.error err, dl) => (.error err, dl)
    | (.ok (), dl) => if dl.complete then (.ok (), dl) else dlHttpDownloadRun env rest dl


def quietPeer : HttpEnv := ⟨fun _ => none, fun _ => none⟩

def freshGet : Downloader := httpSessionStart (List.replicate 64 0) (bytes "host") (bytes "file") 0 8 false

def oneByteResponse : List UInt8 := bytes "HTTP/1.1 200 OK\r\nContent-Length: 1\r\n\r\nX"

/-- In one chunk the response delivers its byte. When the status line comes alone, no file size is
known yet, so the expected length MIN(32, file_size - progress) is 0 and progress == file_size:
the download completes with nothing delivered. A first chunk with no line end after its first byte
makes the backward walk read the byte before cfg.buf. -/
theorem dlHttpDownloadRun_status_line_alone_completes_empty :
    (dlHttpDownloadRun quietPeer [.ok oneByteResponse] freshGet).2.fragments = [bytes "X"] ∧
      (dlHttpDownloadRun quietPeer [.ok (oneByteResponse.take 17), .ok (oneByteResponse.drop 17)] freshGet).2.complete ∧
      (dlHttpDownloadRun quietPeer [.ok (oneByteResponse.take 17), .ok (oneByteResponse.drop 17)] freshGet).2.fragments =
        [] ∧
      ∃ access ∈ (dlHttpDownloadRun quietPeer [.ok (oneByteResponse.take 4), .ok (oneByteResponse.drop 4)]
        freshGet).2.trace, access.offset < 0 := by
  decide +kernel

end Dl
