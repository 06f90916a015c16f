import ClusterBilling.Encoding.Basic

/-! UTF-8. A fault takes the longest run of bytes that could have begun a character. -/
namespace ClusterBilling.Encoding

def isContinuation (b : UInt8) : Bool := b.toNat / 64 == 2

/-- The six low bits of a continuation byte. -/
def lowBits (b : UInt8) : Nat := b.toNat % 64

/-- The second bytes that may follow `lead`: the shortest form, no surrogate, nothing past the
last code point. -/
def mayFollow (lead second : UInt8) : Bool :=
  isContinuation second &&
    (if lead = 0xe0 then 0xa0 ≤ second
    else if lead = 0xed then second < 0xa0
    else if lead = 0xf0 then 0x90 ≤ second
    else if lead = 0xf4 then second < 0x90
    else true)

def utf8Piece : List UInt8 → Piece
  | [] => .bad 0 "unexpected end of data"
  | lead :: rest =>
    if lead < 0x80 then .ofNat lead.toNat 1
    else if lead < 0xc2 || 0xf5 ≤ lead then .bad 1 "invalid start byte"
    else if lead < 0xe0 then
      match rest with
      | [] => .bad 1 "unexpected end of data"
      | b :: _ =>
        if mayFollow lead b then .ofNat (lead.toNat % 32 * 64 + lowBits b) 2
        else .bad 1 "invalid continuation byte"
    else if lead < 0xf0 then
      match rest with
      | [] => .bad 1 "unexpected end of data"
      | b :: rest =>
        if !mayFollow lead b then .bad 1 "invalid continuation byte"
        else match rest with
          | [] => .bad 2 "unexpected end of data"
          | c :: _ =>
            if isContinuation c then .ofNat ((lead.toNat % 16 * 64 + lowBits b) * 64 + lowBits c) 3
            else .bad 2 "invalid continuation byte"
    else
      match rest with
      | [] => .bad 1 "unexpected end of data"
      | b :: rest =>
        if !mayFollow lead b then .bad 1 "invalid continuation byte"
        else match rest with
          | [] => .bad 2 "unexpected end of data"
          | c :: rest =>
            if !isContinuation c then .bad 2 "invalid continuation byte"
            else match rest with
              | [] => .bad 3 "unexpected end of data"
              | d :: _ =>
                if isContinuation d then
                  .ofNat (((lead.toNat % 8 * 64 + lowBits b) * 64 + lowBits c) * 64 + lowBits d) 4
                else .bad 3 "invalid continuation byte"

/-- Three bytes in the form of a surrogate. -/
def utf8Surrogate? : List UInt8 → Option (CodePoint × Nat)
  | a :: b :: c :: _ =>
    if a = 0xed && 0xa0 ≤ b && b < 0xc0 && isContinuation c then
      (CodePoint.ofNat? ((13 * 64 + lowBits b) * 64 + lowBits c)).map (·, 3)
    else none
  | _ => none

def utf8 : Codec := ⟨"utf-8", utf8Piece, utf8Surrogate?⟩

end ClusterBilling.Encoding
