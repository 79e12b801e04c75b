/-! The cyclic redundancy check of POSIX over bytes and their number. -/
namespace ScriptLint.Shell

def checksumBit (crc : UInt32) : UInt32 :=
  if crc &&& 0x80000000 = 0 then crc <<< 1 else (crc <<< 1) ^^^ 0x04C11DB7

def checksumByte (crc : UInt32) (byte : UInt8) : UInt32 :=
  (List.range 8).foldl (fun crc _ => checksumBit crc) (crc ^^^ (byte.toUInt32 <<< 24))

def lengthBytes (n : Nat) : List UInt8 :=
  if h : n = 0 then [] else n.toUInt8 :: lengthBytes (n / 256)
termination_by n
decreasing_by omega

def checksum (bytes : List UInt8) : UInt32 :=
  ~~~((bytes ++ lengthBytes bytes.length).foldl checksumByte 0)

end ScriptLint.Shell
