/-!
# UTF-8

Characters are written as one to four bytes. Reading takes one character at a time: a step
either gives a character and the bytes after it, or the number of bytes that cannot start a
character and why. Strict reading stops at the first fault; tolerant reading replaces each
faulty run by U+FFFD and goes on.
-/

namespace ApiDiscovery.Text.Utf8

/-- Why some bytes are not a character. -/
inductive Fault where
  | start
  | continuation
  | endOfData
  deriving DecidableEq, Repr

/-- The outcome of reading one character. -/
inductive Step where
  | char (c : Char) (rest : List UInt8)
  | fault (why : Fault) (skipped : List UInt8) (rest : List UInt8)

/-- The byte is of the form `10xxxxxx`. -/
def isContinuation (b : UInt8) : Bool := 0x80 ≤ b && b ≤ 0xbf

/-- The byte may follow `lead`: the pair neither starts an overlong form nor a surrogate nor a
code point beyond the last plane. -/
def isSecond (lead b : UInt8) : Bool :=
  isContinuation b &&
    (if lead == 0xe0 then 0xa0 ≤ b else if lead == 0xed then b ≤ 0x9f
      else if lead == 0xf0 then 0x90 ≤ b else if lead == 0xf4 then b ≤ 0x8f else true)

/-- The low six bits of a continuation byte. -/
def payload (b : UInt8) : Nat := b.toNat - 0x80

/-- Reads the character that starts with `lead`. -/
def step (lead : UInt8) (rest : List UInt8) : Step :=
  if lead < 0x80 then .char (Char.ofNat lead.toNat) rest
  else if lead < 0xc2 then .fault .start [lead] rest
  else if lead < 0xe0 then
    match rest with
    | [] => .fault .endOfData [lead] []
    | b :: rest' =>
      if isContinuation b then
        .char (Char.ofNat ((lead.toNat - 0xc0) * 64 + payload b)) rest'
      else .fault .continuation [lead] rest
  else if lead < 0xf0 then
    match rest with
    | [] => .fault .endOfData [lead] []
    | b :: rest' =>
      if isSecond lead b then
        match rest' with
        | [] => .fault .endOfData [lead, b] []
        | c :: rest'' =>
          if isContinuation c then
            .char (Char.ofNat ((lead.toNat - 0xe0) * 4096 + payload b * 64 + payload c)) rest''
          else .fault .continuation [lead, b] rest'
      else .fault .continuation [lead] rest
  else if lead < 0xf5 then
    match rest with
    | [] => .fault .endOfData [lead] []
    | b :: rest' =>
      if isSecond lead b then
        match rest' with
        | [] => .fault .endOfData [lead, b] []
        | c :: rest'' =>
          if isContinuation c then
            match rest'' with
            | [] => .fault .endOfData [lead, b, c] []
            | d :: rest''' =>
              if isContinuation d then
                .char (Char.ofNat ((lead.toNat - 0xf0) * 262144 + payload b * 4096 +
                  payload c * 64 + payload d)) rest'''
              else .fault .continuation [lead, b, c] rest''
          else .fault .continuation [lead, b] rest'
      else .fault .continuation [lead] rest
  else .fault .start [lead] rest

/-- The bytes a step leaves. -/
def Step.rest : Step → List UInt8
  | .char _ rest => rest
  | .fault _ _ rest => rest

/-- A step never puts bytes back. -/
theorem step_rest_length (lead : UInt8) (rest : List UInt8) :
    (step lead rest).rest.length ≤ rest.length := by
  unfold step
  repeat' split
  all_goals simp_all [Step.rest]
  all_goals omega

/-- Reads all bytes, with U+FFFD for each run that is no character. -/
def decodeTolerant : List UInt8 → List Char
  | [] => []
  | lead :: rest =>
    match _h : step lead rest with
    | .char c rest' => c :: decodeTolerant rest'
    | .fault _ _ rest' => '\uFFFD' :: decodeTolerant rest'
termination_by bytes => bytes.length
decreasing_by
  all_goals
    have h := step_rest_length lead rest
    rw [_h] at h
    exact Nat.lt_succ_of_le h

/-- The place and the cause of the first fault in some bytes. -/
structure DecodeError where
  why : Fault
  bytes : List UInt8
  position : Nat
  deriving DecidableEq, Repr

/-- Reads all bytes, which start at the offset `position`, or reports the first fault. -/
def decodeFrom (position : Nat) : List UInt8 → Except DecodeError (List Char)
  | [] => .ok []
  | lead :: rest =>
    match _h : step lead rest with
    | .char c rest' =>
      match decodeFrom (position + (rest.length + 1 - rest'.length)) rest' with
      | .ok chars => .ok (c :: chars)
      | .error e => .error e
    | .fault why skipped _ => .error ⟨why, skipped, position⟩
termination_by bytes => bytes.length
decreasing_by
  have h := step_rest_length lead rest
  rw [_h] at h
  exact Nat.lt_succ_of_le h

/-- Reads all bytes as characters. -/
def decode (bytes : List UInt8) : Except DecodeError (List Char) := decodeFrom 0 bytes

/-- The bytes of one character. -/
def encodeChar (c : Char) : List UInt8 :=
  let n := c.toNat
  if n < 0x80 then [UInt8.ofNat n]
  else if n < 0x800 then [UInt8.ofNat (0xc0 + n / 64), UInt8.ofNat (0x80 + n % 64)]
  else if n < 0x10000 then
    [UInt8.ofNat (0xe0 + n / 4096), UInt8.ofNat (0x80 + n / 64 % 64), UInt8.ofNat (0x80 + n % 64)]
  else
    [UInt8.ofNat (0xf0 + n / 262144), UInt8.ofNat (0x80 + n / 4096 % 64),
      UInt8.ofNat (0x80 + n / 64 % 64), UInt8.ofNat (0x80 + n % 64)]

/-- The bytes of a text. -/
def encode (s : List Char) : List UInt8 := s.flatMap encodeChar

/-- The words for a fault. -/
def Fault.message : Fault → String
  | .start => "invalid start byte"
  | .continuation => "invalid continuation byte"
  | .endOfData => "unexpected end of data"

end ApiDiscovery.Text.Utf8
