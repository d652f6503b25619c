import AiPlatform.AgentUrls
import Mathlib.Data.List.TakeWhile

/-!
What `validate_agent_url` accepts, and its normal form. An accepted address is
written anew from its scheme, host and port, and the result is read again: the
parser finds the same parts in it, unless the text has become too long, the
parser refuses the host as it is written now, or the port is one that only the
configuration has.
-/

namespace AiPlatform.AgentUrls

open Agents (strip isSpace)
open Urls (SplitResult partition)

def caseless : List Char := ['/', '?', '#', '@', ':', '[', ']', '%', '\t', '\r', '\n']

/-- What is documented of `str.lower`, as far as it matters to an address. -/
structure Lowers (lower : String → String) : Prop where
  nil : lower "" = ""
  twice : ∀ text, lower (lower text) = lower text
  some : ∀ text, lower text = "" → text = ""
  caseless : ∀ c ∈ caseless, ∀ text : String, c ∈ (lower text).toList ↔ c ∈ text.toList
  separated : ∀ c ∈ ['%', '[', ']'], ∀ left right : String,
    lower (left ++ String.singleton c ++ right) = lower left ++ String.singleton c ++ lower right

section Parts

variable {separator : Char} {left right text : List Char}

theorem takeWhile_separated (absent : separator ∉ left) :
    (left ++ separator :: right).takeWhile (· ≠ separator) = left := by
  rw [List.takeWhile_append_of_pos, List.takeWhile_cons_of_neg (by simp), List.append_nil]
  intro c member
  have differs : c ≠ separator := fun same => absent (same ▸ member)
  simpa using differs

theorem dropWhile_separated (absent : separator ∉ left) :
    (left ++ separator :: right).dropWhile (· ≠ separator) = separator :: right := by
  rw [List.dropWhile_append_of_pos, List.dropWhile_cons_of_neg (by simp)]
  intro c member
  have differs : c ≠ separator := fun same => absent (same ▸ member)
  simpa using differs

theorem takeWhile_absent (absent : separator ∉ text) :
    text.takeWhile (· ≠ separator) = text := by
  rw [List.takeWhile_eq_self_iff]
  intro c member
  have differs : c ≠ separator := fun same => absent (same ▸ member)
  simpa using differs

theorem dropWhile_absent (absent : separator ∉ text) : text.dropWhile (· ≠ separator) = [] := by
  rw [List.dropWhile_eq_nil_iff]
  intro c member
  have differs : c ≠ separator := fun same => absent (same ▸ member)
  simpa using differs

theorem partition_separated (absent : separator ∉ left) :
    partition separator (left ++ separator :: right) = (left, right) := by
  rw [partition, takeWhile_separated absent, dropWhile_separated absent]
  rfl

end Parts

def foreign : List Char := ['/', '?', '#', '@', ']', '\t', '\r', '\n']

structure ReadHost (lower : String → String) (host : String) : Prop where
  some : host ≠ ""
  native : ∀ c ∈ host.toList, c ∉ foreign
  shape : ∃ name zone, host = lower name ++ zone ∧ '%' ∉ name.toList ∧
    (zone = "" ∨ ∃ rest, zone = String.singleton '%' ++ rest)

section Hosts

variable {lower : String → String} {host : String} {netloc : List Char}

theorem foreign_caseless {c : Char} (member : c ∈ foreign) : c ∈ caseless := by
  have subset : foreign ⊆ caseless := by decide
  exact subset member

theorem lower_native (lowers : Lowers lower) (native : ∀ c ∈ host.toList, c ∉ foreign) :
    ∀ c ∈ (lower host).toList, c ∉ foreign := by
  intro c member refused
  exact native c ((lowers.caseless c (foreign_caseless refused) host).mp member) refused

theorem colon_lower (lowers : Lowers lower) :
    ':' ∈ (lower host).toList ↔ ':' ∈ host.toList :=
  lowers.caseless ':' (by decide) host

theorem lower_bracketed (lowers : Lowers lower) :
    lower ("[" ++ host ++ "]") = "[" ++ lower host ++ "]" := by
  have front := lowers.separated '[' (by decide) "" (host ++ "]")
  have back := lowers.separated ']' (by decide) host ""
  rw [lowers.nil] at front back
  have left : "" ++ String.singleton '[' ++ (host ++ "]") = "[" ++ host ++ "]" := by
    rw [← String.toList_inj]
    simp
  have right : host ++ String.singleton ']' ++ "" = host ++ "]" := by
    rw [← String.toList_inj]
    simp
  rw [left] at front
  rw [right] at back
  rw [front, back, ← String.toList_inj]
  simp

theorem lower_hostPart (lowers : Lowers lower) :
    lower (hostPart host) = hostPart (lower host) := by
  unfold hostPart
  by_cases colon : ':' ∈ host.toList
  · rw [if_pos colon, if_pos ((colon_lower lowers).mpr colon), lower_bracketed lowers]
  · rw [if_neg colon, if_neg (mt (colon_lower lowers).mp colon)]

theorem ReadHost.lower_read (lowers : Lowers lower) (read : ReadHost lower host) :
    lower (String.ofList ((lower host).toList.takeWhile (· ≠ '%'))) ++
      String.ofList ((lower host).toList.dropWhile (· ≠ '%')) = lower host := by
  obtain ⟨name, zone, rfl, whole, rfl | ⟨rest, rfl⟩⟩ := read.shape
  · have absent : '%' ∉ (lower name).toList :=
      mt (lowers.caseless '%' (by decide) name).mp whole
    rw [String.append_empty, lowers.twice, takeWhile_absent absent, dropWhile_absent absent,
      String.ofList_toList, lowers.twice]
    exact String.append_empty
  · have absent : '%' ∉ (lower name).toList :=
      mt (lowers.caseless '%' (by decide) name).mp whole
    have apart : lower (lower name ++ (String.singleton '%' ++ rest)) =
        lower name ++ String.singleton '%' ++ lower rest := by
      rw [← String.append_assoc, lowers.separated '%' (by decide), lowers.twice]
    have written : (lower name ++ String.singleton '%' ++ lower rest).toList =
        (lower name).toList ++ '%' :: (lower rest).toList := by
      simp
    rw [apart, written, takeWhile_separated absent, dropWhile_separated absent,
      String.ofList_toList, lowers.twice, ← String.toList_inj]
    simp

theorem takeWhile_subset {text : List Char} {keep : Char → Bool} {c : Char}
    (member : c ∈ text.takeWhile keep) : c ∈ text :=
  (List.takeWhile_prefix keep).subset member

theorem dropWhile_subset {text : List Char} {keep : Char → Bool} {c : Char}
    (member : c ∈ text.dropWhile keep) : c ∈ text :=
  (List.dropWhile_suffix keep).subset member

theorem hostinfo_subset {c : Char} (member : c ∈ Urls.hostinfo netloc) : c ∈ netloc :=
  List.mem_reverse.mp (takeWhile_subset (List.mem_reverse.mp member))

theorem at_not_mem_hostinfo : '@' ∉ Urls.hostinfo netloc := by
  intro member
  have kept := List.mem_takeWhile_imp (List.mem_reverse.mp member)
  simp at kept

/-- The written host is a part of what follows the last `@`, up to a closing bracket. -/
theorem writtenHost_subset {c : Char} (member : c ∈ Urls.writtenHost netloc) :
    c ∈ Urls.hostinfo netloc ∧ ('[' ∈ Urls.hostinfo netloc → c ≠ ']') := by
  unfold Urls.writtenHost at member
  change c ∈ (if '[' ∈ Urls.hostinfo netloc then _ else _) at member
  by_cases opened : '[' ∈ Urls.hostinfo netloc
  · rw [if_pos opened] at member
    refine ⟨dropWhile_subset (List.mem_of_mem_drop (takeWhile_subset member)), fun _ => ?_⟩
    simpa using List.mem_takeWhile_imp member
  · rw [if_neg opened] at member
    exact ⟨takeWhile_subset member, fun found => absurd found opened⟩

theorem hostname_read (lowers : Lowers lower) (paired : Urls.bracketed netloc = true)
    (single : '[' ∈ netloc → '[' ∈ Urls.hostinfo netloc)
    (clean : ∀ c ∈ netloc, c ∉ ['/', '?', '#', '\t', '\r', '\n'])
    (found : Urls.hostname lower netloc = some host) : ReadHost lower host := by
  unfold Urls.hostname at found
  simp only at found
  split at found
  · cases found
  · rename_i given
    have same := Option.some.inj found
    have native : ∀ c ∈ Urls.writtenHost netloc, c ∉ foreign := by
      intro c member refused
      obtain ⟨inside, closing⟩ := writtenHost_subset member
      have listed := hostinfo_subset inside
      have bracket : c ≠ ']' := by
        rintro rfl
        have opened : '[' ∈ netloc := (of_decide_eq_true paired).mpr listed
        exact closing (single opened) rfl
      have sign : c ≠ '@' := by
        rintro rfl
        exact at_not_mem_hostinfo inside
      have others := clean c listed
      simp only [foreign, List.mem_cons, List.not_mem_nil, or_false] at refused others
      tauto
    refine ⟨?_, ?_, _, _, same.symm, ?_, ?_⟩
    · rintro rfl
      have lengths := congrArg String.toList same
      rw [String.toList_append, String.toList_empty, List.append_eq_nil_iff,
        String.toList_ofList] at lengths
      have name := lowers.some _ (String.toList_inj.mp (lengths.1.trans String.toList_empty.symm))
      have nothing : (Urls.writtenHost netloc).takeWhile (· ≠ '%') = [] := by
        rw [← String.toList_ofList (l := List.takeWhile _ _), name]
        rfl
      have whole := List.takeWhile_append_dropWhile (p := fun c => decide (c ≠ '%'))
        (l := Urls.writtenHost netloc)
      rw [nothing, lengths.2] at whole
      exact given (by rw [← whole]; rfl)
    · intro c member
      rw [← same, String.toList_append, List.mem_append, String.toList_ofList] at member
      rcases member with first | zone
      · refine lower_native lowers (fun c inside => ?_) c first
        rw [String.toList_ofList] at inside
        exact native c (takeWhile_subset inside)
      · exact native c (dropWhile_subset zone)
    · rw [String.toList_ofList]
      intro member
      simpa using List.mem_takeWhile_imp member
    · cases zone : (Urls.writtenHost netloc).dropWhile (· ≠ '%') with
      | nil => exact .inl rfl
      | cons c rest =>
          have sign : c = '%' := by
            have first := List.head?_dropWhile_not (fun c => decide (c ≠ '%'))
              (Urls.writtenHost netloc)
            rw [zone] at first
            simpa using first
          refine .inr ⟨String.ofList rest, ?_⟩
          rw [sign, ← String.toList_inj]
          simp

end Hosts

section Normalised

variable {library : PythonLibrary} {settings : EnrollmentSettings} {scheme : List Char}
  {host : String} {port : Int} {netloc : List Char}

def portText (port : Int) : List Char := (toString port).toList

def normalisedNetloc (library : PythonLibrary) (host : String) (port : Int) : List Char :=
  (hostPart (library.lower host)).toList ++ ':' :: portText port

theorem portText_digit {c : Char} (member : c ∈ portText port) : c = '-' ∨ c.isDigit = true := by
  unfold portText at member
  cases port with
  | ofNat n =>
      right
      have digits : c ∈ Nat.toDigits 10 n := by
        rw [← Nat.toList_repr]
        exact member
      exact Nat.isDigit_of_mem_toDigits (by decide) (by decide) digits
  | negSucc n =>
      have signed : c ∈ '-' :: (n.succ.repr).toList := by
        have text : toString (Int.negSucc n) = "-" ++ n.succ.repr := rfl
        rw [text, String.toList_append] at member
        exact member
      rcases List.mem_cons.mp signed with sign | digit
      · exact .inl sign
      · rw [Nat.toList_repr] at digit
        exact .inr (Nat.isDigit_of_mem_toDigits (by decide) (by decide) digit)

theorem portText_plain {c : Char} (member : c ∈ portText port) : c ∉ caseless := by
  intro special
  rcases portText_digit member with rfl | digit
  · revert special
    decide
  · have others : ∀ c ∈ caseless, c.isDigit = false := by simp [caseless]
    rw [others c special] at digit
    cases digit

theorem decimal_toDigits (n : Nat) : IpAddress.decimal (Nat.toDigits 10 n) = some n := by
  have digits : (Nat.toDigits 10 n).all IpAddress.isDigit = true := by
    rw [List.all_eq_true]
    intro c member
    have digit := Nat.isDigit_of_mem_toDigits (by decide) (by decide) member
    simpa [IpAddress.isDigit, Char.isDigit, Char.le_def] using digit
  rw [IpAddress.decimal, if_pos ⟨Nat.toDigits_ne_nil, digits⟩]
  exact congrArg some (Nat.ofDigitChars_ten_toDigits (n := n))

theorem decimal_signed (digits : List Char) : IpAddress.decimal ('-' :: digits) = none := by
  rw [IpAddress.decimal, if_neg]
  rintro ⟨_, all⟩
  rw [List.all_cons] at all
  cases all

theorem port_portText :
    portText port ≠ [] ∧ (IpAddress.decimal (portText port)).filter (· ≤ 65535) =
      if 0 ≤ port ∧ port ≤ 65535 then some port.toNat else none := by
  cases port with
  | ofNat n =>
      have text : portText (Int.ofNat n) = Nat.toDigits 10 n := Nat.toList_repr
      refine ⟨text ▸ Nat.toDigits_ne_nil, ?_⟩
      rw [text, decimal_toDigits, Option.filter_some]
      have range : (0 ≤ Int.ofNat n ∧ Int.ofNat n ≤ 65535) ↔ n ≤ 65535 := by
        rw [Int.ofNat_eq_natCast]
        omega
      by_cases bound : n ≤ 65535
      · rw [if_pos (decide_eq_true bound), if_pos (range.mpr bound)]
        rfl
      · rw [if_neg (by simpa using bound), if_neg (mt range.mp bound)]
  | negSucc n =>
      have text : portText (Int.negSucc n) = '-' :: n.succ.repr.toList := by
        have signed : toString (Int.negSucc n) = "-" ++ n.succ.repr := rfl
        rw [portText, signed, String.toList_append]
        rfl
      rw [text, decimal_signed, if_neg (by omega)]
      exact ⟨by simp, rfl⟩

theorem normalised_toList (lowers : Lowers library.lower) :
    (normalised library scheme host port).toList =
      scheme ++ ':' :: '/' :: '/' :: normalisedNetloc library host port := by
  unfold normalised normalisedNetloc portText
  rw [lower_hostPart lowers]
  simp [toString]

def Accepts (library : PythonLibrary) (netloc : List Char) : Prop :=
  Urls.bracketed netloc = true ∧ library.validAuthority netloc = true

instance (library : PythonLibrary) (netloc : List Char) : Decidable (Accepts library netloc) :=
  inferInstanceAs (Decidable (_ ∧ _))

def AgentScheme (scheme : List Char) : Prop := scheme = "http".toList ∨ scheme = "https".toList

theorem hostPart_native {c : Char} (member : c ∈ (hostPart host).toList) :
    c ∈ host.toList ∨ c = '[' ∨ c = ']' := by
  unfold hostPart at member
  split at member
  · rw [String.toList_append, String.toList_append] at member
    simp only [List.mem_append] at member
    rcases member with (opening | own) | closing
    · exact .inr (.inl (List.mem_singleton.mp opening))
    · exact .inl own
    · exact .inr (.inr (List.mem_singleton.mp closing))
  · exact .inl member

theorem normalisedNetloc_native (lowers : Lowers library.lower)
    (read : ReadHost library.lower host) {c : Char}
    (member : c ∈ normalisedNetloc library host port) :
    c ∉ ['/', '?', '#', '@', '\t', '\r', '\n'] := by
  intro special
  rcases List.mem_append.mp member with inside | later
  · rcases hostPart_native inside with own | rfl | rfl
    · have refused : ['/', '?', '#', '@', '\t', '\r', '\n'] ⊆ foreign := by decide
      exact lower_native lowers read.native c own (refused special)
    · revert special
      decide
    · revert special
      decide
  · rcases List.mem_cons.mp later with rfl | digit
    · revert special
      decide
    · have listed : ['/', '?', '#', '@', '\t', '\r', '\n'] ⊆ caseless := by decide
      exact portText_plain digit (listed special)

theorem urlsplit_normal {text : String} (known : AgentScheme scheme)
    (written : text.toList = scheme ++ ':' :: '/' :: '/' :: netloc)
    (native : ∀ c ∈ netloc, c ∉ ['/', '?', '#', '@', '\t', '\r', '\n']) :
    Urls.urlsplit library.validAuthority text =
      if Accepts library netloc then some ⟨scheme, netloc, [], [], []⟩ else none := by
  have plain : ∀ c ∈ scheme, decide (c ∉ ['\t', '\r', '\n']) = true := by
    rcases known with rfl | rfl <;> exact List.all_eq_true.mp (by decide)
  have absent : ':' ∉ scheme := by
    rcases known with rfl | rfl <;> decide
  have letter : scheme.head?.any Char.isAlpha = true ∧ scheme.all Urls.schemeChar = true := by
    rcases known with rfl | rfl <;> decide
  have same : scheme.map Char.toLower = scheme := by
    rcases known with rfl | rfl <;> decide
  have kept : (text.toList.dropWhile (·.toNat ≤ 32)).filter (· ∉ ['\t', '\r', '\n']) =
      scheme ++ ':' :: '/' :: '/' :: netloc := by
    rw [written]
    have started : (scheme ++ ':' :: '/' :: '/' :: netloc).dropWhile (·.toNat ≤ 32) =
        scheme ++ ':' :: '/' :: '/' :: netloc := by
      rcases known with rfl | rfl
      · rfl
      · rfl
    rw [started, List.filter_eq_self]
    intro c member
    rcases List.mem_append.mp member with own | later
    · exact plain c own
    · simp only [List.mem_cons] at later
      rcases later with rfl | rfl | rfl | inside
      · rfl
      · rfl
      · rfl
      · have plain := native c inside
        simp only [List.mem_cons, List.not_mem_nil, or_false] at plain ⊢
        simp only [decide_eq_true_eq]
        tauto
  have outside : ∀ c ∈ netloc, decide (c ∉ ['/', '?', '#']) = true := by
    intro c member
    have plain := native c member
    simp only [List.mem_cons, List.not_mem_nil, or_false] at plain ⊢
    simp only [decide_eq_true_eq]
    tauto
  have whole : netloc.takeWhile (· ∉ ['/', '?', '#']) = netloc ∧
      netloc.dropWhile (· ∉ ['/', '?', '#']) = [] :=
    ⟨List.takeWhile_eq_self_iff.mpr outside, List.dropWhile_eq_nil_iff.mpr outside⟩
  have after : Urls.afterScheme (scheme ++ ':' :: '/' :: '/' :: netloc) = '/' :: '/' :: netloc := by
    unfold Urls.afterScheme
    simp only [takeWhile_separated absent]
    rw [if_pos ⟨by simp, letter⟩, ← List.drop_drop, List.drop_left]
    rfl
  have own : Urls.scheme (scheme ++ ':' :: '/' :: '/' :: netloc) = scheme := by
    unfold Urls.scheme
    simp only [takeWhile_separated absent]
    rw [if_pos ⟨by simp, letter⟩, same]
  unfold Urls.urlsplit
  simp only [kept, after, own, whole]
  rfl

theorem normalisedNetloc_read (lowers : Lowers library.lower) (read : ReadHost library.lower host)
    (accepted : Accepts library (normalisedNetloc library host port)) :
    Urls.userinfo (normalisedNetloc library host port) = [] ∧
      Urls.writtenHost (normalisedNetloc library host port) = (library.lower host).toList ∧
      Urls.writtenPort (normalisedNetloc library host port) = portText port := by
  have sign : '@' ∉ normalisedNetloc library host port := fun member =>
    normalisedNetloc_native lowers read member (by simp)
  have info : Urls.hostinfo (normalisedNetloc library host port) =
      normalisedNetloc library host port := by
    rw [Urls.hostinfo, takeWhile_absent (by simpa using sign), List.reverse_reverse]
  have user : Urls.userinfo (normalisedNetloc library host port) = [] := by
    rw [Urls.userinfo, dropWhile_absent (by simpa using sign)]
    rfl
  have closing : ']' ∉ (library.lower host).toList := fun member =>
    lower_native lowers read.native _ member (by decide)
  refine ⟨user, ?_⟩
  have hosts : Urls.writtenHost (normalisedNetloc library host port) =
      if '[' ∈ normalisedNetloc library host port then
        ((((normalisedNetloc library host port).dropWhile (· ≠ '[')).drop 1).takeWhile (· ≠ ']'))
      else (normalisedNetloc library host port).takeWhile (· ≠ ':') := by
    conv_rhs => rw [← info]
    rfl
  rw [hosts, Urls.writtenPort, info]
  by_cases colon : ':' ∈ (library.lower host).toList
  · have shape : normalisedNetloc library host port =
        '[' :: ((library.lower host).toList ++ ']' :: ':' :: portText port) := by
      rw [normalisedNetloc, hostPart, if_pos colon]
      simp
    have first : partition '['
        ('[' :: ((library.lower host).toList ++ ']' :: ':' :: portText port)) =
        ([], (library.lower host).toList ++ ']' :: ':' :: portText port) :=
      @partition_separated '[' [] _ (by simp)
    have last : partition ':' (':' :: portText port) = ([], portText port) :=
      @partition_separated ':' [] _ (by simp)
    rw [shape, if_pos (.head _), if_pos (.head _), first, partition_separated closing, last]
    exact ⟨takeWhile_separated closing, rfl⟩
  · have shape : normalisedNetloc library host port =
        (library.lower host).toList ++ ':' :: portText port := by
      rw [normalisedNetloc, hostPart, if_neg colon]
    have unopened : '[' ∉ normalisedNetloc library host port := by
      intro opened
      have paired : ']' ∈ normalisedNetloc library host port :=
        (of_decide_eq_true accepted.1).mp opened
      rw [shape] at paired
      rcases List.mem_append.mp paired with inside | later
      · exact closing inside
      · rcases List.mem_cons.mp later with same | digit
        · cases same
        · exact portText_plain digit (by decide)
    rw [if_neg unopened, if_neg unopened, shape, partition_separated colon]
    exact ⟨takeWhile_separated colon, rfl⟩

theorem portText_space {c : Char} (member : c ∈ portText port) : isSpace c = false := by
  rcases portText_digit member with rfl | digit
  · rfl
  · have bounds : 48 ≤ c.toNat ∧ c.toNat ≤ 57 := by
      simpa [Char.isDigit, Char.le_def, UInt32.le_iff_toNat_le] using digit
    simp only [isSpace, Bool.or_eq_false_iff, Bool.and_eq_false_iff, decide_eq_false_iff_not,
      beq_eq_false_iff_ne]
    omega

theorem strip_normalised (lowers : Lowers library.lower) (known : AgentScheme scheme) :
    strip (normalised library scheme host port) = normalised library scheme host port := by
  have written : (normalised library scheme host port).toList =
      scheme ++ ':' :: '/' :: '/' :: normalisedNetloc library host port := normalised_toList lowers
  obtain ⟨first, last, ends⟩ : ∃ first last, portText port = first ++ [last] := by
    rcases List.eq_nil_or_concat (portText port) with empty | ⟨first, last, same⟩
    · exact absurd empty port_portText.1
    · exact ⟨first, last, by simpa using same⟩
  have quiet : isSpace last = false := portText_space (by rw [ends]; simp)
  have front : (normalised library scheme host port).toList.dropWhile isSpace =
      (normalised library scheme host port).toList := by
    rw [written]
    rcases known with rfl | rfl
    · rfl
    · rfl
  have back : (normalised library scheme host port).toList.reverse.dropWhile isSpace =
      (normalised library scheme host port).toList.reverse := by
    rw [written, normalisedNetloc, ends]
    simp [quiet]
  rw [strip, front, back, List.reverse_reverse, String.ofList_toList]

theorem screen_normalised (lowers : Lowers library.lower) (read : ReadHost library.lower host)
    (known : AgentScheme scheme) (secure : settings.requireHttps = true → scheme = "https".toList)
    (listed : port ∈ settings.allowedAgentPorts)
    (zero : port = 0 → settings.defaultAgentPort = 0) :
    screen library settings (normalised library scheme host port) =
      if 512 < (normalised library scheme host port).length then
        refuse "The agent address is too long."
      else if ¬Accepts library (normalisedNetloc library host port) then .error .valueError
      else if 0 ≤ port ∧ port ≤ 65535 then .ok (scheme, library.lower host, port)
      else refuse "The agent address has an invalid port." := by
  have written : (normalised library scheme host port).toList =
      scheme ++ ':' :: '/' :: '/' :: normalisedNetloc library host port := normalised_toList lowers
  have some : normalised library scheme host port ≠ "" := by
    intro empty
    rw [empty] at written
    rcases known with rfl | rfl <;> cases written
  unfold screen
  simp only [strip_normalised lowers known, if_neg some]
  by_cases long : 512 < (normalised library scheme host port).length
  · rw [if_pos long, if_pos long]
  rw [if_neg long, if_neg long, urlsplit_normal known written fun c member =>
    normalisedNetloc_native lowers read member]
  by_cases accepted : Accepts library (normalisedNetloc library host port)
  · obtain ⟨user, hosts, ports⟩ := normalisedNetloc_read lowers read accepted
    have named : Urls.hostname library.lower (normalisedNetloc library host port) =
        .some (library.lower host) := by
      unfold Urls.hostname
      simp only [hosts]
      rw [if_neg, read.lower_read lowers]
      intro empty
      rw [List.isEmpty_iff] at empty
      exact read.some (lowers.some host (String.toList_inj.mp (empty.trans String.toList_empty.symm)))
    have schemes : ¬(scheme ≠ "http".toList ∧ scheme ≠ "https".toList) := fun both =>
      known.elim both.1 both.2
    have tls : ¬(settings.requireHttps = true ∧ scheme ≠ "https".toList) := fun both =>
      both.2 (secure both.1)
    have clean : ¬(Urls.username (normalisedNetloc library host port) ≠ [] ∨
        Urls.password (normalisedNetloc library host port) ≠ []) := by
      rw [Urls.username, Urls.password, user]
      simp [partition]
    have bare : ¬((([] : List Char) ≠ [] ∧ ([] : List Char) ≠ ['/']) ∨ ([] : List Char) ≠ [] ∨
        ([] : List Char) ≠ []) := by
      simp
    have range : Urls.port (normalisedNetloc library host port) =
        if 0 ≤ port ∧ port ≤ 65535 then .some (.some port.toNat) else none := by
      rw [Urls.port, ports, if_neg port_portText.1, port_portText.2]
      split <;> rfl
    rw [if_pos accepted, if_neg (not_not.mpr accepted)]
    simp only [screenParts, if_neg schemes, if_neg tls, if_neg clean, if_neg bare, range, named]
    by_cases bounds : 0 ≤ port ∧ port ≤ 65535
    · simp only [if_pos bounds]
      have chosen : (if port.toNat = 0 then settings.defaultAgentPort else (port.toNat : Int)) =
          port := by
        split
        · have nothing : port = 0 := by omega
          rw [zero nothing, nothing]
        · omega
      rw [chosen, if_neg (not_not.mpr listed)]
    · simp only [if_neg bounds]
  · rw [if_neg accepted, if_pos accepted]

structure Screened (library : PythonLibrary) (settings : EnrollmentSettings) (scheme : List Char)
    (host : String) (port : Int) : Prop where
  known : AgentScheme scheme
  secure : settings.requireHttps = true → scheme = "https".toList
  read : ReadHost library.lower host
  listed : port ∈ settings.allowedAgentPorts
  zero : port = 0 → settings.defaultAgentPort = 0

theorem afterScheme_subset {text : List Char} {c : Char} (member : c ∈ Urls.afterScheme text) :
    c ∈ text := by
  unfold Urls.afterScheme at member
  simp only at member
  split at member
  · exact List.mem_of_mem_drop member
  · exact member

theorem urlsplit_clean {text : String} {parts : Urls.SplitResult}
    (split : Urls.urlsplit library.validAuthority text = some parts) :
    Urls.bracketed parts.netloc = true ∧
      ∀ c ∈ parts.netloc, c ∉ ['/', '?', '#', '\t', '\r', '\n'] := by
  unfold Urls.urlsplit at split
  simp only at split
  have removed : ∀ c ∈ Urls.afterScheme ((text.toList.dropWhile (·.toNat ≤ 32)).filter
      (· ∉ ['\t', '\r', '\n'])), c ∉ ['\t', '\r', '\n'] := by
    intro c member
    simpa using (List.mem_filter.mp (afterScheme_subset member)).2
  revert split
  generalize Urls.afterScheme _ = rest at removed
  split
  · rename_i inner
    intro split
    split at split
    · rename_i accepted
      cases split
      refine ⟨accepted.1, fun c member special => ?_⟩
      have stops : c ∉ ['/', '?', '#'] := by simpa using List.mem_takeWhile_imp member
      have kept := removed c (.tail _ (.tail _ (takeWhile_subset member)))
      simp only [List.mem_cons, List.not_mem_nil, or_false] at stops kept special
      tauto
    · cases split
  · intro split
    split at split
    · rename_i accepted
      cases split
      exact ⟨accepted.1, by simp⟩
    · cases split

theorem mem_netloc {c : Char} (member : c ∈ netloc) :
    c ∈ Urls.userinfo netloc ∨ c = '@' ∨ c ∈ Urls.hostinfo netloc := by
  have whole := List.takeWhile_append_dropWhile (p := fun c => decide (c ≠ '@'))
    (l := netloc.reverse)
  rw [← List.mem_reverse, ← whole, List.mem_append] at member
  rcases member with later | before
  · exact .inr (.inr (List.mem_reverse.mpr later))
  · cases first : netloc.reverse.dropWhile (fun c => decide (c ≠ '@')) with
    | nil =>
        rw [first] at before
        cases before
    | cons sign rest =>
        rw [first] at before
        rcases List.mem_cons.mp before with rfl | own
        · have stopped := List.head?_dropWhile_not (fun c => decide (c ≠ '@')) netloc.reverse
          rw [first] at stopped
          exact .inr (.inl (by simpa using stopped))
        · refine .inl (List.mem_reverse.mpr ?_)
          rw [first]
          exact own

/-- Without credentials nothing but a colon stands before an `@`. -/
theorem opening_in_hostinfo (user : Urls.username netloc = []) (pass : Urls.password netloc = [])
    (opened : '[' ∈ netloc) : '[' ∈ Urls.hostinfo netloc := by
  rcases mem_netloc opened with before | same | own
  · have whole := List.takeWhile_append_dropWhile (p := fun c => decide (c ≠ ':'))
      (l := Urls.userinfo netloc)
    have front : (Urls.userinfo netloc).takeWhile (fun c => decide (c ≠ ':')) = [] := user
    have back : ((Urls.userinfo netloc).dropWhile (fun c => decide (c ≠ ':'))).drop 1 = [] := pass
    rw [front, List.nil_append] at whole
    rw [← whole] at before
    cases rest : (Urls.userinfo netloc).dropWhile (fun c => decide (c ≠ ':')) with
    | nil =>
        rw [rest] at before
        cases before
    | cons colon others =>
        have stopped := List.head?_dropWhile_not (fun c => decide (c ≠ ':')) (Urls.userinfo netloc)
        rw [rest] at before back stopped
        rw [List.drop_one, List.tail_cons] at back
        rw [back, List.mem_singleton] at before
        have same : colon = ':' := by simpa using stopped
        rw [same] at before
        cases before
  · cases same
  · exact own

theorem screen_ok (lowers : Lowers library.lower) {raw : String}
    (done : screen library settings raw = .ok (scheme, host, port)) :
    Screened library settings scheme host port := by
  unfold screen at done
  simp only at done
  split at done
  · cases done
  split at done
  · cases done
  split at done
  · cases done
  rename_i parts split
  obtain ⟨paired, clean⟩ := urlsplit_clean split
  unfold screenParts at done
  split at done
  · cases done
  rename_i unknown
  split at done
  · cases done
  rename_i insecure
  split at done
  · cases done
  rename_i anonymous
  split at done
  · cases done
  split at done
  · cases done
  rename_i given written
  split at done
  · cases done
  rename_i hostname named
  obtain ⟨user, pass⟩ := not_or.mp anonymous
  have read := hostname_read lowers paired
    (opening_in_hostinfo (not_not.mp user) (not_not.mp pass)) clean named
  have known : AgentScheme parts.scheme := by
    by_cases http : parts.scheme = "http".toList
    · exact .inl http
    · exact .inr (not_not.mp fun other => unknown ⟨http, other⟩)
  have secure : settings.requireHttps = true → parts.scheme = "https".toList :=
    fun required => not_not.mp fun other => insecure ⟨required, other⟩
  cases given with
  | none =>
      simp only at done
      split at done
      · cases done
      · rename_i listed
        cases done
        exact ⟨known, secure, read, not_not.mp listed, id⟩
  | some value =>
      simp only at done
      by_cases nothing : value = 0
      · rw [if_pos nothing] at done
        split at done
        · cases done
        · rename_i listed
          cases done
          exact ⟨known, secure, read, not_not.mp listed, id⟩
      · rw [if_neg nothing] at done
        split at done
        · cases done
        · rename_i listed
          cases done
          exact ⟨known, secure, read, not_not.mp listed, by omega⟩

def Permitted (library : PythonLibrary) (permitted : List IpNetwork) (address : IpAddress) : Prop :=
  (library.isLoopback address = false ∧ library.isLinkLocal address = false ∧
    library.isUnspecified address = false ∧ library.isMulticast address = false ∧
      library.isReserved address = false) ∧
  (permitted ≠ [] → ∃ network ∈ permitted, network.contains address = true)

def Resolves (answer : Resolution) (address : IpAddress) : Prop :=
  ∃ literals, answer = .infos literals ∧ ∃ literal ∈ literals, ipAddress literal = some address

def Passes (library : PythonLibrary) (settings : EnrollmentSettings) (answer : Resolution) : Prop :=
  (∃ address, Resolves answer address) ∧
    ∃ permitted, settings.allowedAdvertiseCidrs.mapM ipNetwork = some permitted ∧
      ∀ address, Resolves answer address → Permitted library permitted address

theorem mem_addressesOf {literals : List String} {address : IpAddress} :
    (∃ literal, (literal, address) ∈ addressesOf literals) ↔
      ∃ literal ∈ literals, ipAddress literal = some address := by
  simp [addressesOf, List.mem_filterMap]

theorem rejectUnroutable_ok {text : String} {address : IpAddress} :
    rejectUnroutable library host text address = .ok () ↔
      library.isLoopback address = false ∧ library.isLinkLocal address = false ∧
        library.isUnspecified address = false ∧ library.isMulticast address = false ∧
          library.isReserved address = false := by
  unfold rejectUnroutable refuse
  cases library.isLoopback address <;> cases library.isLinkLocal address <;>
    cases library.isUnspecified address <;> cases library.isMulticast address <;>
      cases library.isReserved address <;> simp

theorem vet_ok {permitted : List IpNetwork} {addresses : List (String × IpAddress)} :
    vet library host permitted addresses = .ok () ↔
      ∀ entry ∈ addresses, Permitted library permitted entry.2 := by
  induction addresses with
  | nil => simp [vet]
  | cons entry rest ih =>
      obtain ⟨literal, address⟩ := entry
      have routable : rejectUnroutable library host (library.addressText literal) address = .ok () ↔ _ :=
        rejectUnroutable_ok
      rw [List.forall_mem_cons, ← ih, Permitted, ← routable]
      have first : vet library host permitted ((literal, address) :: rest) =
          (rejectUnroutable library host (library.addressText literal) address >>= fun _ =>
            if permitted ≠ [] ∧ permitted.all fun network => !network.contains address then
              refuse (s!"{host} resolves to {library.addressText literal}, which is outside the " ++
                "address ranges this platform accepts nodes from.")
            else vet library host permitted rest) := rfl
      rw [first]
      cases rejected : rejectUnroutable library host (library.addressText literal) address with
      | error failure => simp [Bind.bind, Except.bind]
      | ok _ =>
          simp only [Bind.bind, Except.bind, true_and]
          by_cases outside : permitted ≠ [] ∧
              (permitted.all fun network => !network.contains address) = true
          · rw [if_pos outside]
            refine iff_of_false (by simp [refuse]) fun both => ?_
            obtain ⟨network, listed, inside⟩ := both.1 outside.1
            have excluded := List.all_eq_true.mp outside.2 network listed
            simp [inside] at excluded
          · rw [if_neg outside]
            refine (and_iff_right fun some => ?_).symm
            by_contra none
            refine outside ⟨some, List.all_eq_true.mpr fun network listed => ?_⟩
            by_contra inside
            exact none ⟨network, listed, by simpa using inside⟩

theorem cidrs_ok {values : List String} {permitted : List IpNetwork} :
    cidrs library values = .ok permitted ↔ values.mapM ipNetwork = some permitted := by
  induction values generalizing permitted with
  | nil =>
      constructor
      · intro done
        cases done
        rfl
      · intro read
        cases read
        rfl
  | cons value rest ih =>
      rw [cidrs, List.mapM_cons]
      cases ipNetwork value with
      | none => simp [refuse]
      | some network =>
          cases later : cidrs library rest with
          | error failure =>
              have failed : rest.mapM ipNetwork = none := by
                rw [Option.eq_none_iff_forall_ne_some]
                intro networks read
                rw [ih.mpr read] at later
                cases later
              simp [failed, Bind.bind, Except.bind]
          | ok networks =>
              simp [ih.mp later, Bind.bind, Except.bind, Pure.pure, Except.pure, eq_comm]

theorem resolve_ok {answer : Resolution} {addresses : List (String × IpAddress)} :
    resolve host answer = .ok addresses ↔
      ∃ literals, answer = .infos literals ∧ addressesOf literals ≠ [] ∧
        addresses = addressesOf literals := by
  cases answer with
  | raises => simp [resolve]
  | gaierror => simp [resolve, refuse]
  | infos literals =>
      rw [resolve]
      by_cases empty : addressesOf literals = []
      · rw [if_pos empty]
        refine iff_of_false (by simp [refuse]) ?_
        rintro ⟨_, same, some, _⟩
        cases same
        exact some empty
      · rw [if_neg empty]
        constructor
        · intro same
          cases same
          exact ⟨literals, rfl, empty, rfl⟩
        · rintro ⟨_, same, _, rfl⟩
          cases same
          rfl

theorem resolves_addressesOf {literals : List String} {address : IpAddress} :
    Resolves (.infos literals) address ↔ ∃ literal, (literal, address) ∈ addressesOf literals := by
  rw [mem_addressesOf, Resolves]
  constructor
  · rintro ⟨_, same, found⟩
    cases same
    exact found
  · exact fun found => ⟨literals, rfl, found⟩

theorem passes_iff {answer : Resolution} :
    Passes library settings answer ↔
      ∃ addresses permitted, resolve host answer = .ok addresses ∧
        cidrs library settings.allowedAdvertiseCidrs = .ok permitted ∧
          vet library host permitted addresses = .ok () := by
  simp only [resolve_ok, cidrs_ok, vet_ok]
  constructor
  · rintro ⟨⟨address, literals, rfl, found⟩, permitted, read, passes⟩
    obtain ⟨literal, member⟩ := mem_addressesOf.mpr found
    refine ⟨_, permitted, ⟨literals, rfl, List.ne_nil_of_mem member, rfl⟩, read, ?_⟩
    rintro ⟨literal, address⟩ member
    exact passes address (resolves_addressesOf.mpr ⟨literal, member⟩)
  · rintro ⟨_, permitted, ⟨literals, rfl, some, rfl⟩, read, passes⟩
    refine ⟨?_, permitted, read, fun address resolved => ?_⟩
    · obtain ⟨⟨literal, address⟩, member⟩ := List.exists_mem_of_ne_nil _ some
      exact ⟨address, resolves_addressesOf.mpr ⟨literal, member⟩⟩
    · obtain ⟨literal, member⟩ := resolves_addressesOf.mp resolved
      exact passes _ member

end Normalised

section Validation

variable (library : PythonLibrary) (settings : EnrollmentSettings) (answer : Resolution)

structure Sound (target : ValidatedAgentUrl) : Prop where
  /-- A scheme, a host and a port, and neither credentials nor a path nor a query. -/
  bare : ∃ scheme netloc, AgentScheme scheme ∧
    (settings.requireHttps = true → scheme = "https".toList) ∧
      target.url.toList = scheme ++ ':' :: '/' :: '/' :: (netloc ++ ':' :: portText target.port) ∧
        ∀ c ∈ netloc, c ∉ ['/', '?', '#', '@']
  port : target.port ∈ settings.allowedAgentPorts
  addresses : ∃ permitted, settings.allowedAdvertiseCidrs.mapM ipNetwork = some permitted ∧
    ∀ address, Resolves answer address → Permitted library permitted address

/-- The address is refused with an `AgentUrlError`, or its target is sound and is
validated to itself again. -/
def Vetted (raw : String) : Prop :=
  match validateAgentUrl library settings answer raw with
  | .error (.agentUrlError _) => True
  | .error _ => False
  | .ok target => Sound library settings answer target ∧
      validateAgentUrl library settings answer target.url = .ok target

def Renews (scheme : List Char) (host : String) (port : Int) : Prop :=
  (normalised library scheme host port).length ≤ 512 ∧
    Accepts library (normalisedNetloc library host port) ∧ 0 ≤ port ∧ port ≤ 65535

/-- The parser accepts the authority if it is asked, the resolver raises nothing
but `gaierror` if it is asked, and where the answer passes, the normal form may
be read again. -/
def Handled (raw : String) : Prop :=
  (strip raw ≠ "" → (strip raw).length ≤ 512 →
      (Urls.urlsplit library.validAuthority (strip raw)).isSome = true) ∧
    ∀ scheme host port, screen library settings raw = .ok (scheme, host, port) →
      answer ≠ .raises ∧
        (Passes library settings answer → Renews library scheme host port)

variable {library settings answer}

theorem refused_or_done {α : Type} {refused : Prop} [Decidable refused] {message : String}
    {value : α} :
    (∃ message', (if refused then refuse message else .ok value) = refuse message') ∨
      ∃ result, (if refused then refuse message else .ok value) = .ok result := by
  by_cases no : refused
  · exact .inl ⟨message, if_pos no⟩
  · exact .inr ⟨value, if_neg no⟩

theorem screenParts_cases (parts : Urls.SplitResult) :
    (∃ message, screenParts library settings parts = refuse message) ∨
      ∃ result, screenParts library settings parts = .ok result := by
  unfold screenParts
  split
  · exact .inl ⟨_, rfl⟩
  split
  · exact .inl ⟨_, rfl⟩
  split
  · exact .inl ⟨_, rfl⟩
  split
  · exact .inl ⟨_, rfl⟩
  split
  · exact .inl ⟨_, rfl⟩
  split
  · exact .inl ⟨_, rfl⟩
  exact refused_or_done

theorem screen_cases (raw : String) :
    (∃ message, screen library settings raw = refuse message) ∨
      (∃ result, screen library settings raw = .ok result) ∨
        screen library settings raw = .error .valueError := by
  unfold screen
  simp only
  split
  · exact .inl ⟨_, rfl⟩
  split
  · exact .inl ⟨_, rfl⟩
  split
  · exact .inr (.inr rfl)
  · exact (screenParts_cases _).imp_right .inl

theorem screen_valueError {raw : String} :
    screen library settings raw = .error .valueError ↔
      ¬(strip raw ≠ "" → (strip raw).length ≤ 512 →
        (Urls.urlsplit library.validAuthority (strip raw)).isSome = true) := by
  unfold screen
  simp only
  by_cases empty : strip raw = ""
  · simp [empty, refuse]
  by_cases long : 512 < (strip raw).length
  · rw [if_neg empty, if_pos long]
    exact iff_of_false (by simp [refuse]) fun unhandled => unhandled fun _ short => by omega
  rw [if_neg empty, if_neg long]
  cases split : Urls.urlsplit library.validAuthority (strip raw) with
  | none => exact iff_of_true rfl fun handled => by simpa using handled empty (by omega)
  | some parts =>
      refine iff_of_false ?_ fun unhandled => unhandled fun _ _ => rfl
      rcases @screenParts_cases library settings parts with
        ⟨message, same⟩ | ⟨result, same⟩
      · simp [same, refuse]
      · simp [same]

theorem validate_ok {raw : String} {target : ValidatedAgentUrl} :
    validateAgentUrl library settings answer raw = .ok target ↔
      ∃ scheme host port addresses, screen library settings raw = .ok (scheme, host, port) ∧
        Passes library settings answer ∧ resolve host answer = .ok addresses ∧
          target = ⟨normalised library scheme host port, library.lower host, port,
            addresses.map fun (literal, _) => library.addressText literal⟩ := by
  unfold validateAgentUrl
  cases screened : screen library settings raw with
  | error failure => simp [Bind.bind, Except.bind]
  | ok result =>
      obtain ⟨scheme, host, port⟩ := result
      simp only [Bind.bind, Except.bind, Pure.pure, Except.pure]
      constructor
      · intro done
        split at done
        · cases done
        rename_i addresses resolved
        split at done
        · cases done
        rename_i permitted ranges
        split at done
        · cases done
        rename_i vetted
        cases done
        exact ⟨scheme, host, port, addresses, rfl,
          passes_iff.mpr ⟨addresses, permitted, resolved, ranges, vetted⟩, resolved, rfl⟩
      · rintro ⟨_, _, _, addresses, same, passes, resolved, rfl⟩
        cases same
        obtain ⟨others, permitted, resolved', ranges, vetted⟩ :=
          (@passes_iff library settings host answer).mp passes
        obtain rfl : addresses = others := Except.ok.inj (resolved.symm.trans resolved')
        simp only [resolved, ranges, vetted]

theorem resolve_refuses {host : String} (known : answer ≠ .raises) :
    (∃ message, resolve host answer = refuse message) ∨
      ∃ addresses, resolve host answer = .ok addresses := by
  cases answer with
  | raises => exact absurd rfl known
  | gaierror => exact .inl ⟨_, rfl⟩
  | infos literals => exact refused_or_done

theorem cidrs_refuses (values : List String) :
    (∃ message, cidrs library values = refuse message) ∨
      ∃ permitted, cidrs library values = .ok permitted := by
  induction values with
  | nil => exact .inr ⟨[], rfl⟩
  | cons value rest ih =>
      rw [cidrs]
      cases ipNetwork value with
      | none => exact .inl ⟨_, rfl⟩
      | some network =>
          rcases ih with ⟨message, same⟩ | ⟨permitted, same⟩
          · rw [same]
            exact .inl ⟨message, rfl⟩
          · rw [same]
            exact .inr ⟨_, rfl⟩

theorem rejectUnroutable_refuses (host text : String) (address : IpAddress) :
    (∃ message, rejectUnroutable library host text address = refuse message) ∨
      rejectUnroutable library host text address = .ok () := by
  unfold rejectUnroutable
  split
  · exact .inl ⟨_, rfl⟩
  split
  · exact .inl ⟨_, rfl⟩
  split
  · exact .inl ⟨_, rfl⟩
  split
  · exact .inl ⟨_, rfl⟩
  · exact .inr rfl

theorem vet_refuses (host : String) (permitted : List IpNetwork)
    (addresses : List (String × IpAddress)) :
    (∃ message, vet library host permitted addresses = refuse message) ∨
      vet library host permitted addresses = .ok () := by
  induction addresses with
  | nil => exact .inr rfl
  | cons entry rest ih =>
      obtain ⟨literal, address⟩ := entry
      rw [vet]
      rcases @rejectUnroutable_refuses library host (library.addressText literal) address with
        ⟨message, same⟩ | same
      · rw [same]
        exact .inl ⟨message, rfl⟩
      · rw [same]
        simp only [Bind.bind, Except.bind]
        split
        · exact .inl ⟨_, rfl⟩
        · exact ih

theorem validate_refuses {raw host : String} {scheme : List Char} {port : Int}
    (screened : screen library settings raw = .ok (scheme, host, port)) (known : answer ≠ .raises) :
    (∃ message, validateAgentUrl library settings answer raw = refuse message) ∨
      ∃ target, validateAgentUrl library settings answer raw = .ok target := by
  unfold validateAgentUrl
  rw [screened]
  simp only [Bind.bind, Except.bind, Pure.pure, Except.pure]
  rcases @resolve_refuses answer host known with ⟨message, same⟩ | ⟨addresses, same⟩
  · rw [same]
    exact .inl ⟨message, rfl⟩
  rw [same]
  rcases @cidrs_refuses library settings.allowedAdvertiseCidrs with
    ⟨message, ranges⟩ | ⟨permitted, ranges⟩
  · simp only [ranges]
    exact .inl ⟨message, rfl⟩
  simp only [ranges]
  rcases @vet_refuses library host permitted addresses with ⟨message, vetted⟩ | vetted
  · simp only [vetted]
    exact .inl ⟨message, rfl⟩
  · simp only [vetted]
    exact .inr ⟨_, rfl⟩

theorem Screened.sound {scheme : List Char} {host : String} {port : Int} {addresses : List String}
    (screened : Screened library settings scheme host port) (lowers : Lowers library.lower)
    (passes : Passes library settings answer) :
    Sound library settings answer
      ⟨normalised library scheme host port, library.lower host, port, addresses⟩ where
  bare := by
    refine ⟨scheme, (hostPart (library.lower host)).toList, screened.known, screened.secure,
      normalised_toList lowers, fun c member special => ?_⟩
    have listed : ['/', '?', '#', '@'] ⊆ ['/', '?', '#', '@', '\t', '\r', '\n'] := by decide
    have within : c ∈ normalisedNetloc library host port := List.mem_append_left _ member
    exact normalisedNetloc_native lowers screened.read within (listed special)
  port := screened.listed
  addresses := passes.2

theorem Screened.again_iff {scheme : List Char} {host : String} {port : Int}
    {addresses : List (String × IpAddress)}
    (screened : Screened library settings scheme host port) (lowers : Lowers library.lower)
    (passes : Passes library settings answer) (resolved : resolve host answer = .ok addresses) :
    validateAgentUrl library settings answer (normalised library scheme host port) =
        .ok ⟨normalised library scheme host port, library.lower host, port,
          addresses.map fun (literal, _) => library.addressText literal⟩ ↔
      Renews library scheme host port := by
  have outcome : screen library settings (normalised library scheme host port) = _ :=
    screen_normalised lowers screened.read screened.known screened.secure screened.listed
      screened.zero
  rw [validate_ok]
  constructor
  · rintro ⟨_, _, _, _, passed, _⟩
    rw [passed] at outcome
    by_cases long : 512 < (normalised library scheme host port).length
    · rw [if_pos long] at outcome
      cases outcome
    by_cases accepted : Accepts library (normalisedNetloc library host port)
    · by_cases bounds : 0 ≤ port ∧ port ≤ 65535
      · exact ⟨by omega, accepted, bounds⟩
      · rw [if_neg long, if_neg (not_not.mpr accepted), if_neg bounds] at outcome
        cases outcome
    · rw [if_neg long, if_pos accepted] at outcome
      cases outcome
  · rintro ⟨short, accepted, bounds⟩
    rw [if_neg (by omega), if_neg (not_not.mpr accepted), if_pos bounds] at outcome
    refine ⟨scheme, library.lower host, port, addresses, outcome, passes, ?_, ?_⟩
    · exact resolve_ok.mpr (resolve_ok.mp resolved)
    · have same : normalised library scheme (library.lower host) port =
          normalised library scheme host port := by
        unfold normalised
        rw [lower_hostPart lowers, lower_hostPart lowers, lowers.twice]
      rw [same, lowers.twice]

/-- An agent address is refused, or becomes a sound target that is validated to itself
again, exactly where the parser accepts it, the resolver raises nothing unexpected, and
the normal form may be read. -/
theorem agent_urls_are_vetted_iff (library : PythonLibrary) (lowers : Lowers library.lower)
    (settings : EnrollmentSettings) (answer : Resolution) (raw : String) :
    Vetted library settings answer raw ↔ Handled library settings answer raw := by
  unfold Vetted Handled
  rcases @screen_cases library settings raw with ⟨message, same⟩ | ⟨⟨scheme, host, port⟩, same⟩ | same
  · have refused : validateAgentUrl library settings answer raw = refuse message := by
      unfold validateAgentUrl
      rw [same]
      rfl
    rw [refused]
    refine iff_of_true trivial ⟨?_, fun scheme host port done => ?_⟩
    · by_contra unhandled
      rw [screen_valueError.mpr unhandled] at same
      cases same
    · rw [same] at done
      cases done
  · have screened := screen_ok lowers same
    have handled : strip raw ≠ "" → (strip raw).length ≤ 512 →
        (Urls.urlsplit library.validAuthority (strip raw)).isSome = true := by
      by_contra unhandled
      rw [screen_valueError.mpr unhandled] at same
      cases same
    rw [and_iff_right handled]
    have only : (∀ scheme host port, screen library settings raw = .ok (scheme, host, port) →
        answer ≠ .raises ∧ (Passes library settings answer → Renews library scheme host port)) ↔
        answer ≠ .raises ∧ (Passes library settings answer → Renews library scheme host port) := by
      constructor
      · exact fun all => all scheme host port same
      · intro own scheme host port other
        rw [same] at other
        cases other
        exact own
    rw [only]
    by_cases known : answer = .raises
    · have raised : validateAgentUrl library settings answer raw = .error .resolverError := by
        unfold validateAgentUrl
        rw [same, known]
        rfl
      rw [raised]
      exact iff_of_false id fun both => both.1 known
    · rw [and_iff_right known]
      rcases validate_refuses same known with ⟨message, refused⟩ | ⟨target, done⟩
      · rw [refused]
        refine iff_of_true trivial fun passes => ?_
        obtain ⟨addresses, _, resolved, _⟩ := (@passes_iff library settings host answer).mp passes
        have done := validate_ok.mpr ⟨scheme, host, port, addresses, same, passes, resolved, rfl⟩
        rw [refused] at done
        cases done
      · rw [done]
        obtain ⟨_, _, _, addresses, screened', passes, resolved, rfl⟩ := validate_ok.mp done
        rw [same] at screened'
        cases screened'
        have again := screened.again_iff lowers passes resolved
        exact ⟨fun both _ => again.mp both.2, fun renews =>
          ⟨screened.sound lowers passes, again.mpr (renews passes)⟩⟩
  · have raised : validateAgentUrl library settings answer raw = .error .valueError := by
      unfold validateAgentUrl
      rw [same]
      rfl
    rw [raised]
    exact iff_of_false id fun both => screen_valueError.mp same both.1

end Validation

def asciiLower (text : String) : String := String.ofList (text.toList.map Char.toLower)

theorem toNat_toLower (c : Char) :
    c.toLower.toNat = if 65 ≤ c.toNat ∧ c.toNat ≤ 90 then c.toNat + 32 else c.toNat := by
  have range : (c.val ≥ 'A'.val ∧ c.val ≤ 'Z'.val) ↔ 65 ≤ c.toNat ∧ c.toNat ≤ 90 := by
    simp only [ge_iff_le, UInt32.le_iff_toNat_le]
    rfl
  unfold Char.toLower
  by_cases upper : 65 ≤ c.toNat ∧ c.toNat ≤ 90
  · rw [dif_pos (range.mpr upper), if_pos upper]
    change (c.val + 32).toNat = c.val.toNat + 32
    have bound : c.val.toNat ≤ 90 := upper.2
    rw [UInt32.toNat_add]
    change (c.val.toNat + 32) % 2 ^ 32 = _
    omega
  · rw [dif_neg (mt range.mp upper), if_neg upper]

theorem toLower_caseless {c d : Char} (special : c ∈ caseless) : d.toLower = c ↔ d = c := by
  have plain : ∀ c ∈ caseless, c.toNat < 97 ∧ ¬(65 ≤ c.toNat ∧ c.toNat ≤ 90) := by simp [caseless]
  have same : ∀ {c d : Char}, c.toNat = d.toNat → c = d := Char.toNat_inj.mp
  constructor
  · intro lowered
    have value := toNat_toLower d
    rw [lowered] at value
    split at value
    · have bound := (plain c special).1
      omega
    · exact same value.symm
  · rintro rfl
    exact same (by rw [toNat_toLower, if_neg (plain d special).2])

theorem toLower_twice (c : Char) : c.toLower.toLower = c.toLower := by
  apply Char.toNat_inj.mp
  rw [toNat_toLower c.toLower, toNat_toLower c]
  split
  · rw [if_neg (by omega)]
  · rfl

theorem asciiLower_lowers : Lowers asciiLower where
  nil := rfl
  twice text := by
    simp only [asciiLower, String.toList_ofList, List.map_map]
    exact congrArg String.ofList (List.map_congr_left fun c _ => toLower_twice c)
  some text empty := by
    have none := congrArg String.toList empty
    rw [asciiLower, String.toList_ofList] at none
    exact String.toList_inj.mp (List.map_eq_nil_iff.mp none)
  caseless c special text := by
    rw [asciiLower, String.toList_ofList, List.mem_map]
    constructor
    · rintro ⟨d, member, same⟩
      rw [← (toLower_caseless special).mp same]
      exact member
    · exact fun member => ⟨c, member, (toLower_caseless special).mpr rfl⟩
  separated c special left right := by
    have subset : ['%', '[', ']'] ⊆ caseless := by decide
    have own : c.toLower = c := (toLower_caseless (subset special)).mpr rfl
    rw [← String.toList_inj]
    simp [asciiLower, own]

def asciiLibrary : PythonLibrary where
  lower := asciiLower
  validAuthority _ := true
  repr text := "'" ++ text ++ "'"
  addressText literal := literal
  isLoopback
    | .v4 value => value / 2 ^ 24 = 127
    | .v6 value => value = 1
  isLinkLocal
    | .v4 value => value / 2 ^ 16 = 43518
    | .v6 value => value / 2 ^ 118 = 1018
  isUnspecified
    | .v4 value => value = 0
    | .v6 value => value = 0
  isMulticast
    | .v4 value => value / 2 ^ 28 = 14
    | .v6 value => value / 2 ^ 120 = 255
  isReserved
    | .v4 value => value / 2 ^ 28 = 15
    | .v6 value => value / 2 ^ 125 ≠ 1 ∧ value / 2 ^ 121 ≠ 126 ∧ value / 2 ^ 119 ≠ 509 ∧
        value / 2 ^ 120 ≠ 255

def enrollment : EnrollmentSettings := ⟨9100, [9100], [], false⟩

theorem gpu_node_is_vetted :
    Vetted asciiLibrary enrollment (.infos ["10.0.0.5"]) "HTTP://GPU-01:9100/" := by
  apply (agent_urls_are_vetted_iff asciiLibrary asciiLower_lowers enrollment (.infos ["10.0.0.5"])
    "HTTP://GPU-01:9100/").mpr
  constructor
  · intro _ _
    decide +kernel
  · intro scheme host port screened
    have found : screen asciiLibrary enrollment "HTTP://GPU-01:9100/" =
        .ok ("http".toList, "gpu-01", 9100) := by decide +kernel
    rw [found] at screened
    cases screened
    refine ⟨by decide, fun _ => ⟨by decide +kernel, by decide +kernel, by decide⟩⟩

/-- A bracket that is not closed is a `ValueError` of the parser. -/
theorem unclosed_bracket_escapes :
    validateAgentUrl asciiLibrary enrollment (.infos ["10.0.0.5"]) "http://[::1" =
        .error .valueError ∧
      ¬ Vetted asciiLibrary enrollment (.infos ["10.0.0.5"]) "http://[::1" := by
  have escapes : validateAgentUrl asciiLibrary enrollment (.infos ["10.0.0.5"]) "http://[::1" =
      .error .valueError := by decide +kernel
  refine ⟨escapes, fun vetted => ?_⟩
  rw [Vetted, escapes] at vetted
  exact vetted

end AiPlatform.AgentUrls
