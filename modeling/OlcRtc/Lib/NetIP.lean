import Mathlib.Data.List.Induction
import Mathlib.Data.List.TakeWhile
import OlcRtc.Lib.Bytes
import OlcRtc.Lib.Hex

/-!
# Internet addresses and their texts

`parseIP` and `ipString` are `net.ParseIP` and `net.IP.String` of Go.  An address is a list of four
or of sixteen bytes, and a text is a list of bytes too, as strings are in Go.

An address of sixteen bytes is written in eight groups of hexadecimal digits, and the longest run of
zeros is left out; one that stands for an address of four bytes is written like that.  Many texts
denote one address: digits of either case, zeros in front of a group or left out or not, the last
four bytes in decimal.  **`parseIP_ipString`** says that the text that is written is one of them.
-/

namespace OlcRtc.NetIP

/-- The characters that structure an address. -/
def dot : UInt8 := 46
def colon : UInt8 := 58
def percent : UInt8 := 37

/-! ## Reading -/

def decimalVal (c : UInt8) : Option ℕ :=
  if 48 ≤ c.toNat ∧ c.toNat ≤ 57 then some (c.toNat - 48) else none

def hexDigitVal (c : UInt8) : Option ℕ := hexVal (Char.ofNat c.toNat)

/-- `parseIPv4Fields`, from some character on: with the character before it, the value and the
number of digits of the current field, and the fields that are complete. -/
def parseIPv4Fields : Bytes → Option UInt8 → ℕ → ℕ → Bytes → Option Bytes
  | [], _, val, _, fields =>
    if fields.length < 3 then none else some (fields ++ [UInt8.ofNat val])
  | c :: rest, prev, val, digLen, fields =>
    match decimalVal c with
    | some d =>
      if digLen = 1 ∧ val = 0 then none
      else if 255 < val * 10 + d then none
      else parseIPv4Fields rest (some c) (val * 10 + d) (digLen + 1) fields
    | none =>
      if c = dot then
        if prev = none ∨ rest = [] ∨ prev = some dot then none
        else if fields.length = 3 then none
        else parseIPv4Fields rest (some c) 0 0 (fields ++ [UInt8.ofNat val])
      else none

def parseIPv4 (s : Bytes) : Option Bytes := parseIPv4Fields s none 0 0 []

/-- The digits of a group: their value and how many there are. -/
def hexGroup : Bytes → ℕ → ℕ → Option (ℕ × ℕ)
  | [], off, acc => some (acc, off)
  | c :: rest, off, acc =>
    match hexDigitVal c with
    | none => some (acc, off)
    | some d =>
      if 3 < off then none
      else if 65535 < acc * 16 + d then none
      else hexGroup rest (off + 1) (acc * 16 + d)

def groupBytes (g : ℕ) : Bytes := [UInt8.ofNat (g / 256), UInt8.ofNat (g % 256)]

/-- The loop of `parseIPv6`: what is left of the text, the bytes so far, and where the ellipsis
stands.  There is room for `n` groups more. -/
def parseGroups : ℕ → Bytes → Bytes → Option ℕ → Option (Bytes × Bytes × Option ℕ)
  | 0, s, ip, ellipsis => some (s, ip, ellipsis)
  | n + 1, s, ip, ellipsis =>
    match hexGroup s 0 0 with
    | none => none
    | some (acc, off) =>
      if off = 0 then none
      else if s[off]? = some dot then
        if ellipsis = none ∧ ip.length ≠ 12 then none
        else if 16 < ip.length + 4 then none
        else (parseIPv4Fields s none 0 0 []).map fun fields => ([], ip ++ fields, ellipsis)
      else
        match s.drop off with
        | [] => some ([], ip ++ groupBytes acc, ellipsis)
        | c :: s =>
          if c ≠ colon then none
          else
            match s with
            | [] => none
            | c :: s =>
              if c = colon then
                if ellipsis ≠ none then none
                else if s = [] then
                  some ([], ip ++ groupBytes acc, some (ip.length + 2))
                else parseGroups n s (ip ++ groupBytes acc) (some (ip.length + 2))
              else parseGroups n (c :: s) (ip ++ groupBytes acc) ellipsis

/-- The end of `parseIPv6`: the ellipsis is expanded. -/
def expandEllipsis : Bytes × Bytes × Option ℕ → Option Bytes
  | (s, ip, ellipsis) =>
    if s ≠ [] then none
    else if ip.length < 16 then
      ellipsis.map fun k => ip.take k ++ (List.replicate (16 - ip.length) 0 ++ ip.drop k)
    else if ellipsis ≠ none then none
    else some ip

/-- `parseIPv6` of a text without a zone. -/
def parseIPv6NoZone (s : Bytes) : Option Bytes :=
  if s.take 2 = [colon, colon] then
    if s.drop 2 = [] then some (List.replicate 16 0)
    else (parseGroups 8 (s.drop 2) [] (some 0)).bind expandEllipsis
  else (parseGroups 8 s [] none).bind expandEllipsis

/-- `parseIPv6`: the address and the zone. -/
def parseIPv6 (s : Bytes) : Option (Bytes × Bytes) :=
  if percent ∈ s then
    let zone := (s.dropWhile (· ≠ percent)).drop 1
    if zone = [] then none
    else (parseIPv6NoZone (s.takeWhile (· ≠ percent))).map fun ip => (ip, zone)
  else (parseIPv6NoZone s).map fun ip => (ip, [])

def v4InV6 : Bytes := [0, 0, 0, 0, 0, 0, 0, 0, 0, 0, 255, 255]

/-- `net.ParseIP`: sixteen bytes always, and no zone. -/
def parseIP (s : Bytes) : Option Bytes :=
  match s.find? fun c => c = dot || c = colon || c = percent with
  | none => none
  | some c =>
    if c = dot then (parseIPv4 s).map (v4InV6 ++ ·)
    else if c = colon then
      (parseIPv6 s).bind fun (ip, zone) => if zone = [] then some ip else none
    else none

def to4 (ip : Bytes) : Option Bytes :=
  if ip.length = 4 then some ip
  else if ip.length = 16 ∧ ip.take 12 = v4InV6 then some (ip.drop 12)
  else none

def to16 (ip : Bytes) : Option Bytes :=
  if ip.length = 4 then some (v4InV6 ++ ip)
  else if ip.length = 16 then some ip
  else none

/-! ## Writing -/

def digitByte (n : ℕ) : UInt8 := UInt8.ofNat (hexDigit n).toNat

/-- `appendDecimal`. -/
def decimal (x : ℕ) : Bytes :=
  (if 100 ≤ x then [digitByte (x / 100)] else []) ++
    (if 10 ≤ x then [digitByte (x / 10 % 10)] else []) ++ [digitByte (x % 10)]

/-- `appendHex`. -/
def hex (x : ℕ) : Bytes :=
  (if 0x1000 ≤ x then [digitByte (x / 4096)] else []) ++
    (if 0x100 ≤ x then [digitByte (x / 256 % 16)] else []) ++
    (if 0x10 ≤ x then [digitByte (x / 16 % 16)] else []) ++ [digitByte (x % 16)]

def join (sep : UInt8) : List Bytes → Bytes
  | [] => []
  | [t] => t
  | t :: ts => t ++ sep :: join sep ts

def ipv4String (ip : Bytes) : Bytes := join dot (ip.map fun b => decimal b.toNat)

def groups : Bytes → List ℕ
  | a :: b :: rest => (a.toNat * 256 + b.toNat) :: groups rest
  | _ => []

/-- How many zeros there are from group `i` on. -/
def zerosAt (gs : List ℕ) (i : ℕ) : ℕ := ((gs.drop i).takeWhile (· = 0)).length

/-- The longest run of at least two zeros, the first of several: from where to where.  Both are 255
if there is none. -/
def longestZeros (gs : List ℕ) : ℕ × ℕ :=
  (List.range 8).foldl (fun best i =>
    if 2 ≤ zerosAt gs i ∧ best.2 - best.1 < zerosAt gs i then (i, i + zerosAt gs i) else best)
    (255, 255)

def ipv6String (ip : Bytes) : Bytes :=
  let gs := groups ip
  let (zeroStart, zeroEnd) := longestZeros gs
  if zeroStart < 8 then
    join colon ((gs.take zeroStart).map hex) ++
      (colon :: colon :: join colon ((gs.drop zeroEnd).map hex))
  else join colon (gs.map hex)

/-- `net.IP.String`. -/
def ipString (ip : Bytes) : Bytes :=
  if ip.length = 0 then ascii "<nil>"
  else if ip.length ≠ 4 ∧ ip.length ≠ 16 then ascii "?" ++ (encodeHex ip).map Char.toUInt8
  else
    match to4 ip with
    | some p4 => ipv4String p4
    | none => ipv6String ip

/-! ## Digits are read back -/

lemma hexDigitVal_digitByte : ∀ n < 16, hexDigitVal (digitByte n) = some n := by decide

lemma decimalVal_digitByte : ∀ n < 10, decimalVal (digitByte n) = some n := by decide

def EndsGroup (rest : Bytes) : Prop := ∀ c, rest.head? = some c → hexDigitVal c = none

lemma hexGroup_end {rest : Bytes} (h : EndsGroup rest) (off acc : ℕ) :
    hexGroup rest off acc = some (acc, off) := by
  cases rest with
  | nil => rfl
  | cons c rest => rw [hexGroup, h c rfl]

lemma hexGroup_cons {n : ℕ} (hn : n < 16) {rest : Bytes} {off acc : ℕ} (hoff : off ≤ 3)
    (hacc : acc * 16 + n ≤ 65535) :
    hexGroup (digitByte n :: rest) off acc = hexGroup rest (off + 1) (acc * 16 + n) := by
  rw [hexGroup, hexDigitVal_digitByte n hn]
  simp only
  rw [if_neg (by omega), if_neg (by omega)]

/-- **A group is read back**, whatever follows. -/
lemma hexGroup_hex {x : ℕ} (hx : x < 65536) {rest : Bytes} (hrest : EndsGroup rest) :
    hexGroup (hex x ++ rest) 0 0 = some (x, (hex x).length) := by
  rw [hex]
  -- a digit is written only after those before it
  split_ifs <;> first | (exfalso; omega) | skip
  all_goals
    simp only [List.nil_append, List.cons_append]
    repeat rw [hexGroup_cons (by omega) (by omega) (by omega)]
    rw [hexGroup_end hrest]
    exact congrArg some (Prod.ext (by dsimp only; omega) rfl)

lemma length_hex_pos (x : ℕ) : 0 < (hex x).length := by
  rw [hex, List.length_append, List.length_singleton]
  omega

lemma parseIPv4Fields_cons {d : ℕ} (hd : d < 10) {rest fields : Bytes} {prev : Option UInt8}
    {val digLen : ℕ} (hlead : ¬(digLen = 1 ∧ val = 0)) (hval : val * 10 + d ≤ 255) :
    parseIPv4Fields (digitByte d :: rest) prev val digLen fields =
      parseIPv4Fields rest (some (digitByte d)) (val * 10 + d) (digLen + 1) fields := by
  rw [parseIPv4Fields, decimalVal_digitByte d hd]
  simp only
  rw [if_neg hlead, if_neg (by omega)]

/-- **A number of a byte is read back.** -/
lemma parseIPv4Fields_decimal {x : ℕ} (fields : Bytes) (hx : x ≤ 255) (rest : Bytes)
    (prev : Option UInt8) :
    ∃ c digLen, c ≠ dot ∧ parseIPv4Fields (decimal x ++ rest) prev 0 0 fields =
      parseIPv4Fields rest (some c) x digLen fields := by
  have hdot : ∀ d < 10, digitByte d ≠ dot := by decide
  refine ⟨digitByte (x % 10), (decimal x).length, hdot _ (by omega), ?_⟩
  rw [decimal]
  split_ifs <;> first | (exfalso; omega) | skip
  all_goals
    simp only [List.nil_append, List.cons_append]
    repeat rw [parseIPv4Fields_cons (by omega) (by omega) (by omega)]
    congr 1
    omega

/-! ## Addresses of four bytes -/

lemma decimal_ne_nil (x : ℕ) : decimal x ≠ [] := by
  simp [decimal]

lemma parseIPv4Fields_field {x : ℕ} (hx : x ≤ 255) {rest fields : Bytes} (prev : Option UInt8)
    (hrest : rest ≠ []) (hroom : fields.length < 3) :
    parseIPv4Fields (decimal x ++ dot :: rest) prev 0 0 fields =
      parseIPv4Fields rest (some dot) 0 0 (fields ++ [UInt8.ofNat x]) := by
  obtain ⟨c, digLen, hc, hfield⟩ := parseIPv4Fields_decimal fields hx (dot :: rest) prev
  rw [hfield, parseIPv4Fields, show decimalVal dot = none by decide]
  simp only [if_true, reduceCtorEq, false_or, Option.some.injEq]
  rw [if_neg (by simp [hrest, hc]), if_neg (by omega)]

lemma parseIPv4Fields_last {x : ℕ} (hx : x ≤ 255) {fields : Bytes} (prev : Option UInt8)
    (hfull : fields.length = 3) :
    parseIPv4Fields (decimal x) prev 0 0 fields = some (fields ++ [UInt8.ofNat x]) := by
  obtain ⟨c, digLen, -, hfield⟩ := parseIPv4Fields_decimal fields hx [] prev
  rw [List.append_nil] at hfield
  rw [hfield, parseIPv4Fields, if_neg (by omega)]

/-- **An address of four bytes is read back.** -/
lemma parseIPv4_ipv4String {ip : Bytes} (hlen : ip.length = 4) :
    parseIPv4 (ipv4String ip) = some ip := by
  obtain ⟨a, b, c, d, rfl⟩ := List.length_eq_four.1 hlen
  have hbyte : ∀ x : UInt8, x.toNat ≤ 255 := fun x => Nat.le_of_lt_succ x.toNat_lt
  show parseIPv4Fields (decimal a.toNat ++ dot :: (decimal b.toNat ++ dot :: (decimal c.toNat ++
    dot :: decimal d.toNat))) none 0 0 [] = some [a, b, c, d]
  rw [parseIPv4Fields_field (hbyte a) _ (by simp) (by simp),
    parseIPv4Fields_field (hbyte b) _ (by simp) (by simp),
    parseIPv4Fields_field (hbyte c) _ (decimal_ne_nil _) (by simp),
    parseIPv4Fields_last (hbyte d) _ rfl]
  simp

/-! ## Addresses of sixteen bytes -/

lemma endsGroup_nil : EndsGroup [] := fun _ h => by cases h

lemma endsGroup_colon (rest : Bytes) : EndsGroup (colon :: rest) := by
  intro c hc
  obtain rfl : colon = c := Option.some.inj hc
  decide

lemma parseGroups_last {g n : ℕ} (hg : g < 65536) (ip : Bytes) (ellipsis : Option ℕ) :
    parseGroups (n + 1) (hex g) ip ellipsis = some ([], ip ++ groupBytes g, ellipsis) := by
  have hgroup := hexGroup_hex hg endsGroup_nil
  rw [List.append_nil] at hgroup
  rw [parseGroups, hgroup]
  simp only
  rw [if_neg (length_hex_pos g).ne', if_neg (by simp), List.drop_length]

lemma parseGroups_group {g n : ℕ} (hg : g < 65536) {c : UInt8} (hc : c ≠ colon) (rest ip : Bytes)
    (ellipsis : Option ℕ) :
    parseGroups (n + 1) (hex g ++ colon :: c :: rest) ip ellipsis =
      parseGroups n (c :: rest) (ip ++ groupBytes g) ellipsis := by
  rw [parseGroups, hexGroup_hex hg (endsGroup_colon _)]
  simp only
  rw [if_neg (length_hex_pos g).ne', if_neg (by simp [colon, dot]), List.drop_left]
  simp only [ne_eq, not_true_eq_false, if_false, if_neg hc]

lemma parseGroups_ellipsis {g n : ℕ} (hg : g < 65536) (rest ip : Bytes) :
    parseGroups (n + 1) (hex g ++ colon :: colon :: rest) ip none =
      if rest = [] then some ([], ip ++ groupBytes g, some (ip.length + 2))
      else parseGroups n rest (ip ++ groupBytes g) (some (ip.length + 2)) := by
  rw [parseGroups, hexGroup_hex hg (endsGroup_colon _)]
  simp only
  rw [if_neg (length_hex_pos g).ne', if_neg (by simp [colon, dot]), List.drop_left]
  simp only [ne_eq, not_true_eq_false, if_false, if_true]

lemma hex_eq_cons (g : ℕ) (hg : g < 65536) : ∃ n rest, n < 16 ∧ hex g = digitByte n :: rest := by
  rw [hex]
  split_ifs <;> exact ⟨_, _, by omega, rfl⟩

lemma digitByte_ne_colon : ∀ n < 16, digitByte n ≠ colon := by decide

lemma join_hex_eq_cons {g : ℕ} (hg : g < 65536) (gs : List ℕ) :
    ∃ c rest, c ≠ colon ∧ join colon ((g :: gs).map hex) = c :: rest := by
  obtain ⟨n, rest, hn, hhex⟩ := hex_eq_cons g hg
  cases gs with
  | nil => exact ⟨digitByte n, rest, digitByte_ne_colon n hn, hhex⟩
  | cons g' gs =>
    refine ⟨digitByte n, rest ++ colon :: join colon ((g' :: gs).map hex),
      digitByte_ne_colon n hn, ?_⟩
    rw [List.map_cons, List.map_cons, join, hhex]
    · rfl
    · nofun

lemma join_hex_cons_cons (g g' : ℕ) (gs : List ℕ) :
    join colon ((g :: g' :: gs).map hex) =
      hex g ++ colon :: join colon ((g' :: gs).map hex) := rfl

/-- **Groups are read back.** -/
lemma parseGroups_join (gs : List ℕ) : ∀ (n : ℕ) (ip : Bytes) (ellipsis : Option ℕ), gs ≠ [] →
    (∀ g ∈ gs, g < 65536) → gs.length ≤ n →
    parseGroups n (join colon (gs.map hex)) ip ellipsis =
      some ([], ip ++ gs.flatMap groupBytes, ellipsis) := by
  induction gs with
  | nil => exact fun _ _ _ h => absurd rfl h
  | cons g gs ih =>
    intro n ip ellipsis _ hgs hn
    obtain ⟨n, rfl⟩ := Nat.exists_eq_add_one_of_ne_zero (Nat.ne_of_gt (by
      rw [List.length_cons] at hn; omega : 0 < n))
    obtain ⟨hg, hgs⟩ := List.forall_mem_cons.1 hgs
    cases gs with
    | nil =>
      show parseGroups (n + 1) (hex g) ip ellipsis = _
      rw [parseGroups_last hg, List.flatMap_singleton]
    | cons g' gs =>
      obtain ⟨c, rest, hc, hjoin⟩ := join_hex_eq_cons (hgs g' List.mem_cons_self) gs
      rw [join_hex_cons_cons, hjoin, parseGroups_group hg hc, ← hjoin,
        ih n _ _ (by simp) hgs (by simpa using hn), List.flatMap_cons (x := g),
        List.append_assoc]

/-- **Groups with an ellipsis are read back.** -/
lemma parseGroups_join_ellipsis (gs hs : List ℕ) : ∀ (n : ℕ) (ip : Bytes), gs ≠ [] →
    (∀ g ∈ gs, g < 65536) → (∀ g ∈ hs, g < 65536) → gs.length + hs.length ≤ n →
    parseGroups n (join colon (gs.map hex) ++ colon :: colon :: join colon (hs.map hex)) ip none =
      some ([], ip ++ (gs.flatMap groupBytes ++ hs.flatMap groupBytes),
        some (ip.length + (gs.flatMap groupBytes).length)) := by
  induction gs with
  | nil => exact fun _ _ h => absurd rfl h
  | cons g gs ih =>
    intro n ip _ hgs hhs hn
    obtain ⟨n, rfl⟩ := Nat.exists_eq_add_one_of_ne_zero (Nat.ne_of_gt (by
      rw [List.length_cons] at hn; omega : 0 < n))
    obtain ⟨hg, hgs⟩ := List.forall_mem_cons.1 hgs
    cases gs with
    | nil =>
      show parseGroups (n + 1) (hex g ++ colon :: colon :: join colon (hs.map hex)) ip none = _
      rw [parseGroups_ellipsis hg]
      cases hs with
      | nil =>
        rw [if_pos (by rfl)]
        simp [groupBytes]
      | cons h hs =>
        obtain ⟨c, rest, -, hjoin⟩ := join_hex_eq_cons (hhs h List.mem_cons_self) hs
        rw [if_neg (by rw [hjoin]; nofun), parseGroups_join _ _ _ _ (by simp) hhs
          (by simp at hn ⊢; omega)]
        simp [groupBytes]
    | cons g' gs =>
      obtain ⟨c, rest, hc, hjoin⟩ := join_hex_eq_cons (hgs g' List.mem_cons_self) gs
      have ih := ih n (ip ++ groupBytes g) (by simp) hgs hhs (by simp at hn ⊢; omega)
      rw [hjoin] at ih
      rw [join_hex_cons_cons, hjoin, List.append_assoc, List.cons_append, List.cons_append,
        parseGroups_group hg hc, ← List.cons_append, ih]
      simp [groupBytes]
      omega

/-! ### Groups and bytes -/

lemma groups_lt (ip : Bytes) : ∀ g ∈ groups ip, g < 65536 := by
  induction ip using groups.induct with
  | case1 a b rest ih =>
    rw [groups, List.forall_mem_cons]
    refine ⟨?_, ih⟩
    have ha := a.toNat_lt
    have hb := b.toNat_lt
    omega
  | case2 ip hne =>
    rw [groups]
    · exact nofun
    · exact hne

lemma groupBytes_eq (a b : UInt8) : groupBytes (a.toNat * 256 + b.toNat) = [a, b] := by
  have hb := b.toNat_lt
  have hdiv : (a.toNat * 256 + b.toNat) / 256 = a.toNat := by omega
  have hmod : (a.toNat * 256 + b.toNat) % 256 = b.toNat := by omega
  rw [groupBytes, hdiv, hmod, UInt8.ofNat_toNat, UInt8.ofNat_toNat]

lemma flatMap_groups {n : ℕ} : ∀ {ip : Bytes}, ip.length = 2 * n →
    (groups ip).length = n ∧ (groups ip).flatMap groupBytes = ip := by
  induction n with
  | zero =>
    intro ip hlen
    obtain rfl := List.length_eq_zero_iff.1 hlen
    exact ⟨rfl, rfl⟩
  | succ n ih =>
    intro ip hlen
    match ip, hlen with
    | a :: b :: rest, hlen =>
      obtain ⟨hlength, hbytes⟩ := @ih rest (by simp at hlen; omega)
      rw [groups, List.length_cons, hlength, List.flatMap_cons, hbytes, groupBytes_eq]
      exact ⟨rfl, rfl⟩

lemma length_flatMap_groupBytes (gs : List ℕ) : (gs.flatMap groupBytes).length = 2 * gs.length := by
  induction gs with
  | nil => rfl
  | cons g gs ih =>
    rw [List.flatMap_cons, List.length_append, ih, List.length_cons, groupBytes, List.length_cons,
      List.length_singleton]
    omega

lemma flatMap_replicate_zero (n : ℕ) :
    (List.replicate n 0).flatMap groupBytes = List.replicate (2 * n) 0 := by
  induction n with
  | zero => rfl
  | succ n ih =>
    rw [List.replicate_succ, List.flatMap_cons, ih, Nat.mul_succ, Nat.add_comm (2 * n),
      List.replicate_add]
    rfl

/-! ### The run of zeros -/

structure ZeroRun (gs : List ℕ) (run : ℕ × ℕ) : Prop where
  start : run.1 < 8
  two : run.1 + 2 ≤ run.2
  bound : run.2 ≤ gs.length
  zeros : gs = gs.take run.1 ++ (List.replicate (run.2 - run.1) 0 ++ gs.drop run.2)

lemma zeroRun_zerosAt {gs : List ℕ} {i : ℕ} (hi : i < 8) (htwo : 2 ≤ zerosAt gs i) :
    ZeroRun gs (i, i + zerosAt gs i) := by
  have hzeros : (gs.drop i).takeWhile (· = 0) = List.replicate (zerosAt gs i) 0 := by
    refine List.eq_replicate_iff.2 ⟨rfl, fun g hg => ?_⟩
    simpa using List.mem_takeWhile_imp hg
  have hsplit := List.takeWhile_append_dropWhile (p := (· = 0)) (l := gs.drop i)
  have hdrop : (gs.drop i).dropWhile (· = 0) = gs.drop (i + zerosAt gs i) := by
    rw [← List.drop_drop]
    nth_rewrite 2 [← hsplit]
    rw [zerosAt, List.drop_left]
  have hlen : zerosAt gs i ≤ (gs.drop i).length := (List.takeWhile_prefix _).length_le
  rw [List.length_drop] at hlen
  refine ⟨hi, by dsimp only; omega, by dsimp only; omega, ?_⟩
  show gs = gs.take i ++ (List.replicate (i + zerosAt gs i - i) 0 ++ gs.drop (i + zerosAt gs i))
  rw [Nat.add_sub_cancel_left, ← hzeros, ← hdrop, hsplit, List.take_append_drop]

lemma longestZeros_cases (gs : List ℕ) :
    longestZeros gs = (255, 255) ∨ ZeroRun gs (longestZeros gs) := by
  rw [longestZeros]
  have hrange : ∀ i ∈ List.range 8, i < 8 := fun i => List.mem_range.1
  generalize List.range 8 = order at hrange
  induction order using List.reverseRecOn with
  | nil => exact Or.inl rfl
  | append_singleton order i ih =>
    rw [List.foldl_append, List.foldl_cons, List.foldl_nil]
    split_ifs with hlonger
    · exact Or.inr (zeroRun_zerosAt (hrange i (by simp)) hlonger.1)
    · exact ih fun j hj => hrange j (by simp [hj])

/-! ### The whole text -/

lemma take_two_ne {c : UInt8} (hc : c ≠ colon) (rest : Bytes) :
    (c :: rest).take 2 ≠ [colon, colon] := by
  cases rest with
  | nil => simp
  | cons c' rest => simp [hc]

lemma parseIPv6NoZone_groups {gs : List ℕ} (hgs : ∀ g ∈ gs, g < 65536) (hlen : gs.length = 8) :
    parseIPv6NoZone (join colon (gs.map hex)) = some (gs.flatMap groupBytes) := by
  have hne : gs ≠ [] := by
    rintro rfl
    cases hlen
  have hbytes := length_flatMap_groupBytes gs
  have hparse := parseGroups_join gs 8 [] none hne hgs hlen.le
  obtain ⟨g, gs, rfl⟩ := List.exists_cons_of_ne_nil hne
  obtain ⟨c, rest, hc, hjoin⟩ := join_hex_eq_cons (hgs g List.mem_cons_self) gs
  rw [parseIPv6NoZone, if_neg (by rw [hjoin]; exact take_two_ne hc rest), hparse, Option.bind_some,
    List.nil_append, expandEllipsis, if_neg (by simp), if_neg (by omega), if_neg (by simp)]

lemma parseIPv6NoZone_ellipsis {gs hs : List ℕ} {n : ℕ} (hgs : ∀ g ∈ gs, g < 65536)
    (hhs : ∀ g ∈ hs, g < 65536) (hlen : gs.length + n + hs.length = 8) (hn : 2 ≤ n) :
    parseIPv6NoZone (join colon (gs.map hex) ++ colon :: colon :: join colon (hs.map hex)) =
      some ((gs ++ (List.replicate n 0 ++ hs)).flatMap groupBytes) := by
  have hgb := length_flatMap_groupBytes gs
  have hhb := length_flatMap_groupBytes hs
  rw [List.flatMap_append, List.flatMap_append, flatMap_replicate_zero]
  cases gs with
  | nil =>
    rw [List.length_nil, Nat.zero_add] at hlen
    have htake : (colon :: colon :: join colon (hs.map hex)).take 2 = [colon, colon] := rfl
    show parseIPv6NoZone (colon :: colon :: join colon (hs.map hex)) = _
    rw [parseIPv6NoZone, if_pos htake]
    cases hs with
    | nil =>
      obtain rfl : n = 8 := hlen
      exact if_pos rfl
    | cons h hs =>
      obtain ⟨c, rest, -, hjoin⟩ := join_hex_eq_cons (hhs h List.mem_cons_self) hs
      have hparse := parseGroups_join (h :: hs) 8 [] (some 0) (by simp) hhs (by omega)
      have hzeros : 16 - ((h :: hs).flatMap groupBytes).length = 2 * n := by omega
      rw [if_neg (by rw [hjoin]; simp)]
      show (parseGroups 8 (join colon ((h :: hs).map hex)) [] (some 0)).bind _ = _
      rw [hparse, Option.bind_some, List.nil_append, expandEllipsis, if_neg (by simp),
        if_pos (by omega), hzeros]
      rfl
  | cons g gs =>
    obtain ⟨c, rest, hc, hjoin⟩ := join_hex_eq_cons (hgs g List.mem_cons_self) gs
    have hparse := parseGroups_join_ellipsis (g :: gs) hs 8 [] (by simp) hgs hhs (by omega)
    have hzeros :
        16 - ((g :: gs).flatMap groupBytes ++ hs.flatMap groupBytes).length = 2 * n := by
      rw [List.length_append]
      omega
    rw [parseIPv6NoZone, if_neg (by rw [hjoin]; exact take_two_ne hc _), hparse,
      Option.bind_some, List.nil_append, expandEllipsis, if_neg (by simp),
      if_pos (by rw [List.length_append]; omega), hzeros, List.length_nil, Nat.zero_add,
      Option.map_some, List.take_left, List.drop_left]

lemma parseIPv6NoZone_ipv6String {ip : Bytes} (hlen : ip.length = 16) :
    parseIPv6NoZone (ipv6String ip) = some ip := by
  obtain ⟨hgroups, hbytes⟩ := flatMap_groups (n := 8) hlen
  have hlt := groups_lt ip
  rw [ipv6String]
  rcases longestZeros_cases (groups ip) with hnone | hrun
  · simp only [hnone]
    rw [if_neg (by omega), parseIPv6NoZone_groups hlt hgroups, hbytes]
  · generalize longestZeros (groups ip) = zeroRun at hrun ⊢
    obtain ⟨zeroStart, zeroEnd⟩ := zeroRun
    obtain ⟨hstart, htwo, hbound, hzeros⟩ := hrun
    dsimp only at hstart htwo hbound hzeros ⊢
    rw [if_pos hstart, parseIPv6NoZone_ellipsis (n := zeroEnd - zeroStart)
      (fun g hg => hlt g (List.mem_of_mem_take hg)) (fun g hg => hlt g (List.mem_of_mem_drop hg))
      (by rw [List.length_take, List.length_drop]; omega) (by omega), ← hzeros, hbytes]

/-! ### Which characters occur -/

/-- The text is made of digits and of separators. -/
def MadeOf (sep : UInt8) (text : Bytes) : Prop :=
  ∀ c ∈ text, c = sep ∨ ∃ n < 16, c = digitByte n

lemma madeOf_hex {g : ℕ} (hg : g < 65536) (sep : UInt8) : MadeOf sep (hex g) := by
  intro c hc
  right
  simp only [hex, List.mem_append, List.mem_ite_nil_right, List.mem_singleton] at hc
  rcases hc with ((⟨-, rfl⟩ | ⟨-, rfl⟩) | ⟨-, rfl⟩) | rfl <;> exact ⟨_, by omega, rfl⟩

lemma madeOf_decimal {x : ℕ} (hx : x ≤ 255) (sep : UInt8) : MadeOf sep (decimal x) := by
  intro c hc
  right
  simp only [decimal, List.mem_append, List.mem_ite_nil_right, List.mem_singleton] at hc
  rcases hc with (⟨-, rfl⟩ | ⟨-, rfl⟩) | rfl <;> exact ⟨_, by omega, rfl⟩

lemma MadeOf.append {sep : UInt8} {s t : Bytes} (hs : MadeOf sep s) (ht : MadeOf sep t) :
    MadeOf sep (s ++ t) :=
  fun c hc => (List.mem_append.1 hc).elim (hs c) (ht c)

lemma MadeOf.cons {sep : UInt8} {t : Bytes} (ht : MadeOf sep t) : MadeOf sep (sep :: t) := by
  intro c hc
  rcases List.mem_cons.1 hc with rfl | hc
  · exact Or.inl rfl
  · exact ht c hc

lemma madeOf_join {sep : UInt8} {ts : List Bytes} (hts : ∀ t ∈ ts, MadeOf sep t) :
    MadeOf sep (join sep ts) := by
  induction ts with
  | nil => exact nofun
  | cons t ts ih =>
    obtain ⟨ht, hts⟩ := List.forall_mem_cons.1 hts
    cases ts with
    | nil => exact ht
    | cons t' ts => exact ht.append (MadeOf.cons (ih hts))

lemma MadeOf.find {sep : UInt8} {text : Bytes} (ht : MadeOf sep text) (hmem : sep ∈ text)
    (hsep : sep = dot ∨ sep = colon) :
    (text.find? fun c => c = dot || c = colon || c = percent) = some sep := by
  have hdigit : ∀ n < 16, (digitByte n = dot || digitByte n = colon || digitByte n = percent) =
      false := by decide
  have hspecial : (sep = dot || sep = colon || sep = percent) = true := by
    rcases hsep with rfl | rfl <;> decide
  have hsome : (text.find? fun c => c = dot || c = colon || c = percent).isSome = true :=
    List.find?_isSome.2 ⟨sep, hmem, hspecial⟩
  obtain ⟨c, hc⟩ := Option.isSome_iff_exists.1 hsome
  rcases ht c (List.mem_of_find?_eq_some hc) with rfl | ⟨n, hn, rfl⟩
  · exact hc
  · grind

lemma MadeOf.percent_notMem {text : Bytes} (ht : MadeOf colon text) : percent ∉ text := by
  intro hmem
  have hdigit : ∀ n < 16, percent ≠ digitByte n := by decide
  rcases ht percent hmem with heq | ⟨n, hn, heq⟩
  · cases heq
  · exact hdigit n hn heq

lemma madeOf_ipv4String {ip : Bytes} : MadeOf dot (ipv4String ip) := by
  refine madeOf_join fun t ht => ?_
  obtain ⟨b, -, rfl⟩ := List.mem_map.1 ht
  exact madeOf_decimal (Nat.le_of_lt_succ b.toNat_lt) dot

lemma dot_mem_ipv4String {ip : Bytes} (hlen : ip.length = 4) : dot ∈ ipv4String ip := by
  obtain ⟨a, b, c, d, rfl⟩ := List.length_eq_four.1 hlen
  show dot ∈ decimal a.toNat ++ dot :: _
  simp

lemma madeOf_groups {gs : List ℕ} (hgs : ∀ g ∈ gs, g < 65536) :
    MadeOf colon (join colon (gs.map hex)) := by
  refine madeOf_join fun t ht => ?_
  obtain ⟨g, hg, rfl⟩ := List.mem_map.1 ht
  exact madeOf_hex (hgs g hg) colon

lemma madeOf_ipv6String (ip : Bytes) : MadeOf colon (ipv6String ip) := by
  have hlt := groups_lt ip
  simp only [ipv6String]
  split_ifs
  · exact (madeOf_groups fun g hg => hlt g (List.mem_of_mem_take hg)).append
      (MadeOf.cons (MadeOf.cons (madeOf_groups fun g hg => hlt g (List.mem_of_mem_drop hg))))
  · exact madeOf_groups hlt

lemma colon_mem_ipv6String {ip : Bytes} (hlen : ip.length = 16) : colon ∈ ipv6String ip := by
  simp only [ipv6String]
  split_ifs
  · simp
  · obtain ⟨hgroups, -⟩ := flatMap_groups (n := 8) hlen
    match hgs : groups ip, hgroups with
    | g :: g' :: gs, _ =>
      rw [join_hex_cons_cons]
      simp

/-- **The text of an address denotes it.** -/
theorem parseIP_ipString {ip : Bytes} (hlen : ip.length = 4 ∨ ip.length = 16) :
    parseIP (ipString ip) = to16 ip := by
  rw [ipString, if_neg (by omega), if_neg (by omega)]
  cases hto4 : to4 ip with
  | some p4 =>
    have hp4 : p4.length = 4 ∧ to16 ip = some (v4InV6 ++ p4) := by
      rw [to4] at hto4
      rw [to16]
      split_ifs at hto4 with h4 h16
      · cases hto4
        exact ⟨h4, if_pos h4⟩
      · cases hto4
        refine ⟨by rw [List.length_drop]; omega, ?_⟩
        rw [if_neg h4, if_pos h16.1, ← h16.2, List.take_append_drop]
    show parseIP (ipv4String p4) = _
    rw [parseIP, madeOf_ipv4String.find (dot_mem_ipv4String hp4.1) (Or.inl rfl), hp4.2]
    show (parseIPv4 (ipv4String p4)).map _ = _
    rw [parseIPv4_ipv4String hp4.1]
    rfl
  | none =>
    have h4 : ip.length ≠ 4 := by
      intro h4
      rw [to4, if_pos h4] at hto4
      cases hto4
    have h16 : ip.length = 16 := hlen.resolve_left h4
    have hmade := madeOf_ipv6String ip
    show parseIP (ipv6String ip) = _
    rw [parseIP, hmade.find (colon_mem_ipv6String h16) (Or.inr rfl), to16, if_neg h4, if_pos h16]
    show (parseIPv6 (ipv6String ip)).bind _ = _
    rw [parseIPv6, if_neg hmade.percent_notMem, parseIPv6NoZone_ipv6String h16]
    rfl

/-! ## What is read has its length -/

lemma length_parseIPv4Fields {s fields ip : Bytes} {prev : Option UInt8} {val digLen : ℕ}
    (hroom : fields.length ≤ 3) (h : parseIPv4Fields s prev val digLen fields = some ip) :
    ip.length = 4 := by
  induction s generalizing prev val digLen fields with
  | nil =>
    rw [parseIPv4Fields] at h
    split_ifs at h with hshort
    rw [← Option.some.inj h, List.length_append, List.length_singleton]
    omega
  | cons c rest ih =>
    rw [parseIPv4Fields] at h
    cases hd : decimalVal c <;> grind

lemma length_expandEllipsis {r : Bytes × Bytes × Option ℕ} {ip : Bytes} (hlen : r.2.1.length ≤ 16)
    (h : expandEllipsis r = some ip) : ip.length = 16 := by
  obtain ⟨s, bytes, ellipsis⟩ := r
  rw [expandEllipsis] at h
  dsimp only at hlen
  split_ifs at h with hs hshort he
  · obtain ⟨k, -, rfl⟩ := Option.map_eq_some_iff.1 h
    rw [List.length_append, List.length_append, List.length_replicate, List.length_take,
      List.length_drop]
    omega
  · rw [← Option.some.inj h]
    omega

lemma length_parseGroups {n : ℕ} {s ip : Bytes} {ellipsis : Option ℕ}
    {r : Bytes × Bytes × Option ℕ} (hlen : ip.length + 2 * n ≤ 16)
    (h : parseGroups n s ip ellipsis = some r) : r.2.1.length ≤ 16 := by
  have hgroup : ∀ (ip : Bytes) g, (ip ++ groupBytes g).length = ip.length + 2 := fun ip g => by
    rw [List.length_append]
    rfl
  fun_induction parseGroups n s ip ellipsis with
  | case1 s ip ellipsis =>
    cases h
    exact hlen
  | case6 =>
    obtain ⟨fields, hfields, rfl⟩ := Option.map_eq_some_iff.1 h
    rw [List.length_append, length_parseIPv4Fields (by simp) hfields]
    omega
  | case7 | case11 =>
    cases h
    rw [hgroup]
    omega
  | case12 _ _ _ _ _ _ _ _ _ _ _ _ _ _ _ ih | case13 _ _ _ _ _ _ _ _ _ _ _ _ _ _ _ ih =>
    refine ih ?_ h
    rw [hgroup]
    omega
  | _ => cases h

/-- **What is read has sixteen bytes.** -/
lemma length_parseIP {s ip : Bytes} (h : parseIP s = some ip) : ip.length = 16 := by
  have hnozone : ∀ {s ip : Bytes}, parseIPv6NoZone s = some ip → ip.length = 16 := by
    intro s ip h
    rw [parseIPv6NoZone] at h
    split_ifs at h
    · rw [← Option.some.inj h, List.length_replicate]
    · obtain ⟨r, hr, hexpand⟩ := Option.bind_eq_some_iff.1 h
      exact length_expandEllipsis (length_parseGroups (by simp) hr) hexpand
    · obtain ⟨r, hr, hexpand⟩ := Option.bind_eq_some_iff.1 h
      exact length_expandEllipsis (length_parseGroups (by simp) hr) hexpand
  rw [parseIP] at h
  cases hfind : s.find? fun c => c = dot || c = colon || c = percent with
  | none =>
    rw [hfind] at h
    cases h
  | some c =>
    simp only [hfind] at h
    split_ifs at h
    · obtain ⟨fields, hfields, rfl⟩ := Option.map_eq_some_iff.1 h
      rw [List.length_append, length_parseIPv4Fields (by simp) hfields]
      rfl
    · obtain ⟨⟨ip', zone⟩, hv6, hzone⟩ := Option.bind_eq_some_iff.1 h
      dsimp only at hzone
      split_ifs at hzone
      simp only [parseIPv6] at hv6
      split_ifs at hv6
      · obtain ⟨ip'', hip, heq⟩ := Option.map_eq_some_iff.1 hv6
        cases heq
        exact Option.some.inj hzone ▸ hnozone hip
      · obtain ⟨ip'', hip, heq⟩ := Option.map_eq_some_iff.1 hv6
        cases heq
        exact Option.some.inj hzone ▸ hnozone hip

end OlcRtc.NetIP
