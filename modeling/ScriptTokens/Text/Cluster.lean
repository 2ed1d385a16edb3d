import ScriptTokens.Text.Extender

namespace ScriptTokens.Text

inductive BreakClass
  | other
  | carriageReturn
  | lineFeed
  | control
  | extend
  | joiner
  | regionalIndicator
  | prepend
  | spacingMark
  | leadingJamo
  | vowelJamo
  | trailingJamo
  | openSyllable
  | closedSyllable
  deriving DecidableEq, Repr

def clusterControls : CodeSet := .ofTable
  "0 A B D E 20 7F A0 AD AE 61C 61D 180E 180F 200B 200C 200E 2010 2028 202F 2060 2070 FEFF FF00
    FFF0 FFFC 13430 13440 1BCA0 1BCA4 1D173 1D17B E0000 E0020 E0080 E0100 E01F0 E1000"

def isClusterExtender (c : Char) : Bool :=
  isExtender c || (0x1F3FB ≤ c.toNat && c.toNat ≤ 0x1F3FF)

def prepended : CodeSet := .ofTable
  "600 606 6DD 6DE 70F 710 890 892 8E2 8E3 D4E D4F 110BD 110BE 110CD 110CE 111C2 111C4 113D1
    113D2 1193F 11940 11941 11942 11A84 11A8A 11D46 11D47 11F02 11F03"

def spacingMarks : CodeSet := .ofTable
  "903 904 93B 93C 93E 941 949 94D 94E 950 982 984 9BF 9C1 9C7 9C9 9CB 9CD A03 A04 A3E A41 A83
    A84 ABE AC1 AC9 ACA ACB ACD B02 B04 B40 B41 B47 B49 B4B B4D BBF BC0 BC1 BC3 BC6 BC9 BCA BCD
    C01 C04 C41 C45 C82 C84 CBE CBF CC1 CC2 CC3 CC5 CF3 CF4 D02 D04 D3F D41 D46 D49 D4A D4D D82
    D84 DD0 DD2 DD8 DDF DF2 DF4 E33 E34 EB3 EB4 F3E F40 F7F F80 1031 1032 103B 103D 1056 1058 1084
    1085 17B6 17B7 17BE 17C6 17C7 17C9 1923 1927 1929 192C 1930 1932 1933 1939 1A19 1A1B 1A55 1A56
    1A57 1A58 1A6D 1A73 1B04 1B05 1B3E 1B42 1B82 1B83 1BA1 1BA2 1BA6 1BA8 1BE7 1BE8 1BEA 1BED 1BEE
    1BEF 1C24 1C2C 1C34 1C36 1CE1 1CE2 1CF7 1CF8 A823 A825 A827 A828 A880 A882 A8B4 A8C4 A952 A953
    A983 A984 A9B4 A9B6 A9BA A9BC A9BE A9C0 AA2F AA31 AA33 AA35 AA4D AA4E AAEB AAEC AAEE AAF0 AAF5
    AAF6 ABE3 ABE5 ABE6 ABE8 ABE9 ABEB ABEC ABED 11000 11001 11002 11003 11082 11083 110B0 110B3
    110B7 110B9 1112C 1112D 11145 11147 11182 11183 111B3 111B6 111BF 111C0 111CE 111CF 1122C
    1122F 11232 11234 112E0 112E3 11302 11304 1133F 11340 11341 11345 11347 11349 1134B 1134D
    11362 11364 113B9 113BB 113CA 113CB 113CC 113CE 11435 11438 11440 11442 11445 11446 114B1
    114B3 114B9 114BA 114BB 114BD 114BE 114BF 114C1 114C2 115B0 115B2 115B8 115BC 115BE 115BF
    11630 11633 1163B 1163D 1163E 1163F 116AC 116AD 116AE 116B0 1171E 1171F 11726 11727 1182C
    1182F 11838 11839 11931 11936 11937 11939 11940 11941 11942 11943 119D1 119D4 119DC 119E0
    119E4 119E5 11A39 11A3A 11A57 11A59 11A97 11A98 11B61 11B62 11B65 11B66 11B67 11B68 11C2F
    11C30 11C3E 11C3F 11CA9 11CAA 11CB1 11CB2 11CB4 11CB5 11D8A 11D8F 11D93 11D95 11D96 11D97
    11EF5 11EF7 11F03 11F04 11F34 11F36 11F3E 11F40 1612A 1612D 16F51 16F88"

def pictographs : CodeSet := .ofTable
  "A9 AA AE AF 203C 203D 2049 204A 2122 2123 2139 213A 2194 219A 21A9 21AB 231A 231C 2328 2329
    23CF 23D0 23E9 23F4 23F8 23FB 24C2 24C3 25AA 25AC 25B6 25B7 25C0 25C1 25FB 25FF 2600 2605 260E
    260F 2611 2612 2614 2616 2618 2619 261D 261E 2620 2621 2622 2624 2626 2627 262A 262B 262E 2630
    2638 263B 2640 2641 2642 2643 2648 2654 265F 2661 2663 2664 2665 2667 2668 2669 267B 267C 267E
    2680 2692 2698 2699 269A 269B 269D 26A0 26A2 26A7 26A8 26AA 26AC 26B0 26B2 26BD 26BF 26C4 26C6
    26C8 26C9 26CE 26D0 26D1 26D2 26D3 26D5 26E9 26EB 26F0 26F6 26F7 26FB 26FD 26FE 2702 2703 2705
    2706 2708 270E 270F 2710 2712 2713 2714 2715 2716 2717 271D 271E 2721 2722 2728 2729 2733 2735
    2744 2745 2747 2748 274C 274D 274E 274F 2753 2756 2757 2758 2763 2765 2795 2798 27A1 27A2 27B0
    27B1 27BF 27C0 2934 2936 2B05 2B08 2B1B 2B1D 2B50 2B51 2B55 2B56 3030 3031 303D 303E 3297 3298
    3299 329A 1F004 1F005 1F02C 1F030 1F094 1F0A0 1F0AF 1F0B1 1F0C0 1F0C1 1F0CF 1F0D1 1F0F6 1F100
    1F170 1F172 1F17E 1F180 1F18E 1F18F 1F191 1F19B 1F1AE 1F1E6 1F201 1F210 1F21A 1F21B 1F22F
    1F230 1F232 1F23B 1F23C 1F240 1F249 1F260 1F266 1F322 1F324 1F394 1F396 1F398 1F399 1F39C
    1F39E 1F3F1 1F3F3 1F3F6 1F3F7 1F3FB 1F400 1F4FE 1F4FF 1F53E 1F549 1F54F 1F550 1F568 1F56F
    1F571 1F573 1F57B 1F587 1F588 1F58A 1F58E 1F590 1F591 1F595 1F597 1F5A4 1F5A6 1F5A8 1F5A9
    1F5B1 1F5B3 1F5BC 1F5BD 1F5C2 1F5C5 1F5D1 1F5D4 1F5DC 1F5DF 1F5E1 1F5E2 1F5E3 1F5E4 1F5E8
    1F5E9 1F5EF 1F5F0 1F5F3 1F5F4 1F5FA 1F650 1F680 1F6C6 1F6CB 1F6D3 1F6D5 1F6E6 1F6E9 1F6EA
    1F6EB 1F6F1 1F6F3 1F700 1F7DA 1F800 1F80C 1F810 1F848 1F850 1F85A 1F860 1F888 1F890 1F8AE
    1F8B0 1F8BC 1F8C0 1F8C2 1F8D0 1F8D9 1F900 1F90C 1F93B 1F93C 1F946 1F947 1FA00 1FA58 1FA60
    1FA6E 1FB00 1FC00 1FFFE"

def conjunctConsonants : CodeSet := .ofTable
  "915 93A 958 960 978 980 995 9A9 9AA 9B1 9B2 9B3 9B6 9BA 9DC 9DE 9DF 9E0 9F0 9F2 A95 AA9 AAA
    AB1 AB2 AB4 AB5 ABA AF9 AFA B15 B29 B2A B31 B32 B34 B35 B3A B5C B5E B5F B60 B71 B72 C15 C29
    C2A C3A C58 C5B D15 D3B 1000 102B 103F 1040 1050 1056 105A 105E 1061 1062 1065 1067 106E 1071
    1075 1082 108E 108F 1780 17B4 1A20 1A55 1B0B 1B0D 1B13 1B34 1B45 1B4D 1B83 1BA1 1BAE 1BB0 1BBB
    1BBE A989 A98C A98F A9B3 A9E0 A9E5 A9E7 A9F0 A9FA A9FF AA60 AA70 AA71 AA74 AA7A AA7B AA7E AA80
    AAE0 AAEB ABC0 ABDB 10A00 10A01 10A10 10A14 10A15 10A18 10A19 10A36 11103 11127 11144 11145
    11147 11148 11380 1138A 1138B 1138C 1138E 1138F 11390 113B6 11900 11907 11909 1190A 1190C
    11914 11915 11917 11918 11930 11A00 11A01 11A0B 11A33 11A50 11A51 11A5C 11A84 11F04 11F11
    11F12 11F34"

def conjunctLinkers : CodeSet := .ofTable
  "94D 94E 9CD 9CE ACD ACE B4D B4E C4D C4E D4D D4E 1039 103A 17D2 17D3 1A60 1A61 1B44 1B45 1BAB
    1BAC A9C0 A9C1 AAF6 AAF7 10A3F 10A40 11133 11134 113D0 113D1 1193E 1193F 11A47 11A48 11A99
    11A9A 11F42 11F43"

def hangulClass? (n : Nat) : Option BreakClass :=
  if (0x1100 ≤ n && n ≤ 0x115F) || (0xA960 ≤ n && n ≤ 0xA97C) then some .leadingJamo
  else if (0x1160 ≤ n && n ≤ 0x11A7) || (0xD7B0 ≤ n && n ≤ 0xD7C6) then some .vowelJamo
  else if n == 0x16D63 || (0x16D67 ≤ n && n ≤ 0x16D6A) then some .vowelJamo
  else if (0x11A8 ≤ n && n ≤ 0x11FF) || (0xD7CB ≤ n && n ≤ 0xD7FB) then some .trailingJamo
  else if 0xAC00 ≤ n && n ≤ 0xD7A3 then
    some (if (n - 0xAC00) % 28 == 0 then .openSyllable else .closedSyllable)
  else none

def breakClass (c : Char) : BreakClass :=
  if c = '\r' then .carriageReturn
  else if c = '\n' then .lineFeed
  else if c.toNat < 0x20 then .control
  else if c.toNat < 0x7F then .other
  else if clusterControls.contains c then .control
  else if c.toNat = 0x200D then .joiner
  else if isClusterExtender c then .extend
  else if 0x1F1E6 ≤ c.toNat && c.toNat ≤ 0x1F1FF then .regionalIndicator
  else if prepended.contains c then .prepend
  else if spacingMarks.contains c then .spacingMark
  else (hangulClass? c.toNat).getD .other

inductive Progress
  | idle
  | begun
  | ready
  deriving DecidableEq, Repr

structure Context where
  last : BreakClass
  oddIndicators : Bool
  pictograph : Progress
  conjunct : Progress

namespace Context

def pictographAfter (progress : Progress) (c : Char) (kind : BreakClass) : Progress :=
  if pictographs.contains c then .begun
  else match progress, kind with
    | .begun, .extend => .begun
    | .begun, .joiner => .ready
    | _, _ => .idle

def conjunctAfter (progress : Progress) (c : Char) (kind : BreakClass) : Progress :=
  if conjunctConsonants.contains c then .begun
  else if progress = .idle then .idle
  else if conjunctLinkers.contains c then .ready
  else if (kind = .extend && c.toNat != 0x200C) || kind = .joiner then progress
  else .idle

def start (c : Char) : Context :=
  let kind := breakClass c
  { last := kind
    oddIndicators := kind = .regionalIndicator
    pictograph := pictographAfter .idle c kind
    conjunct := conjunctAfter .idle c kind }

def push (context : Context) (c : Char) : Context :=
  let kind := breakClass c
  { last := kind
    oddIndicators := kind = .regionalIndicator && !context.oddIndicators
    pictograph := pictographAfter context.pictograph c kind
    conjunct := conjunctAfter context.conjunct c kind }

def isControl : BreakClass → Bool
  | .carriageReturn | .lineFeed | .control => true
  | _ => false

def takes (context : Context) (c : Char) : Bool :=
  let kind := breakClass c
  match context.last, kind with
  | .carriageReturn, .lineFeed => true
  | last, kind =>
    if isControl last || isControl kind then false
    else match last, kind with
      | .leadingJamo, .leadingJamo | .leadingJamo, .vowelJamo => true
      | .leadingJamo, .openSyllable | .leadingJamo, .closedSyllable => true
      | .openSyllable, .vowelJamo | .openSyllable, .trailingJamo => true
      | .vowelJamo, .vowelJamo | .vowelJamo, .trailingJamo => true
      | .closedSyllable, .trailingJamo | .trailingJamo, .trailingJamo => true
      | _, .extend | _, .joiner | _, .spacingMark => true
      | .prepend, _ => true
      | .regionalIndicator, .regionalIndicator => context.oddIndicators
      | _, _ =>
        (context.conjunct = .ready && conjunctConsonants.contains c) ||
        (context.pictograph = .ready && pictographs.contains c)

end Context

def clusters : List Char → List (List Char)
  | [] => []
  | c :: cs => go (.start c) [c] cs
where
  go (context : Context) (taken : List Char) : List Char → List (List Char)
    | [] => [taken.reverse]
    | c :: cs =>
      if context.takes c then go (context.push c) (c :: taken) cs
      else taken.reverse :: go (.start c) [c] cs

end ScriptTokens.Text
