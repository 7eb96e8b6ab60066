import AccessLog.Address

/-!
How addresses are written, told by their parts and by no reading from left to right: octets joined
by points, groups joined by colons, and one gap at most. `isIPv4_iff` and `isIPv6_iff` say that the
readers accept these texts and no others; a text of this kind is short and has few characters.
-/
namespace AccessLog

namespace Text

variable {sep : Char}

/-- Joined pieces have no other characters than their own and the separator. -/
theorem mem_intercalate {ps : List (List Char)} {c : Char} (h : c ∈ [sep].intercalate ps) :
    c = sep ∨ ∃ p ∈ ps, c ∈ p := by
  induction ps with
  | nil => exact absurd h List.not_mem_nil
  | cons p ps ih =>
    cases ps with
    | nil => exact .inr ⟨p, List.mem_cons_self, by rwa [List.intercalate_singleton] at h⟩
    | cons q qs =>
      rw [List.intercalate_cons_cons, List.mem_append, List.mem_append] at h
      rcases h with (h | h) | h
      · exact .inr ⟨p, List.mem_cons_self, h⟩
      · exact .inl (List.mem_singleton.mp h)
      · rcases ih h with h | ⟨p', hp, hc⟩
        · exact .inl h
        · exact .inr ⟨p', List.mem_cons_of_mem p hp, hc⟩

/-- Joined pieces are as long as all of them but the last may be, and the last. -/
theorem length_intercalate_le (sep : Char) {k : Nat} {ps : List (List Char)}
    (h : ∀ p ∈ ps, p.length ≤ k) (last : List Char) :
    ([sep].intercalate (ps ++ [last])).length ≤ (k + 1) * ps.length + last.length := by
  induction ps with
  | nil => simp
  | cons p ps ih =>
    have hp := h p List.mem_cons_self
    have hrest := ih fun q hq => h q (List.mem_cons_of_mem p hq)
    have hne : ps ++ [last] ≠ [] := List.append_ne_nil_of_right_ne_nil ps (List.cons_ne_nil last [])
    obtain ⟨q, qs, hcons⟩ := List.exists_cons_of_ne_nil hne
    rw [hcons] at hrest
    rw [List.cons_append, hcons, List.intercalate_cons_cons, List.length_cons, Nat.mul_succ]
    simp only [List.length_append, List.length_singleton]
    omega

end Text

namespace Address

/-- A decimal octet: one to three digits for at most 255, with no zero in front of others. -/
structure Octet (cs : List Char) : Prop where
  digits : ∀ c ∈ cs, '0' ≤ c ∧ c ≤ '9'
  nonempty : cs ≠ []
  length_le : cs.length ≤ 3
  unpadded : cs.head? = some '0' → cs = ['0']
  value_le : Decimal.value cs ≤ 255

/-- A hexadecimal digit in small or capital letters. -/
def HexDigit (c : Char) : Prop :=
  ('0' ≤ c ∧ c ≤ '9') ∨ ('a' ≤ c ∧ c ≤ 'f') ∨ ('A' ≤ c ∧ c ≤ 'F')

instance (c : Char) : Decidable (HexDigit c) := inferInstanceAs (Decidable (_ ∨ _))

/-- Sixteen bits: one to four hexadecimal digits. -/
structure Group (cs : List Char) : Prop where
  digits : ∀ c ∈ cs, HexDigit c
  nonempty : cs ≠ []
  length_le : cs.length ≤ 4

/-- A dotted quad: four octets with points between them. -/
def Quad (cs : List Char) : Prop :=
  ∃ octets : List (List Char), octets.length = 4 ∧ (∀ o ∈ octets, Octet o) ∧
    ['.'].intercalate octets = cs

/-- `n` groups with colons between them. -/
def Groups (n : Nat) (cs : List Char) : Prop :=
  ∃ groups : List (List Char), groups.length = n ∧ (∀ g ∈ groups, Group g) ∧
    [':'].intercalate groups = cs

/-- `n` groups with colons between them, the last two of them written as a dotted quad. -/
def GroupsQuad (n : Nat) (cs : List Char) : Prop :=
  ∃ (groups : List (List Char)) (quad : List Char), groups.length + 2 = n ∧
    (∀ g ∈ groups, Group g) ∧ Quad quad ∧ [':'].intercalate (groups ++ [quad]) = cs

/-- Eight groups, or fewer with a gap that stands for the missing ones. -/
inductive IPv6 : List Char → Prop
  | full {cs : List Char} (h : Groups 8 cs ∨ GroupsQuad 8 cs) : IPv6 cs
  | gap {m n : Nat} {before after : List Char} (hb : Groups m before)
      (ha : Groups n after ∨ GroupsQuad n after) (h : m + n < 8) :
      IPv6 (before ++ ':' :: ':' :: after)

theorem isDigit_iff (c : Char) : c.isDigit = true ↔ '0' ≤ c ∧ c ≤ '9' := by
  simp only [Char.isDigit, Bool.and_eq_true, decide_eq_true_iff]
  rfl

theorem isHexDigit_iff (c : Char) : isHexDigit c = true ↔ HexDigit c := by
  simp only [isHexDigit, HexDigit, Bool.or_eq_true, Bool.and_eq_true, decide_eq_true_iff,
    isDigit_iff, or_assoc]

theorem isOctet_iff (cs : List Char) : isOctet cs = true ↔ Octet cs := by
  have hplain : (cs == ['0'] || cs.head? != some '0') = true ↔
      (cs.head? = some '0' → cs = ['0']) := by
    rw [Bool.or_eq_true, beq_iff_eq, bne_iff_ne, or_comm, ← Decidable.imp_iff_not_or]
  simp only [isOctet, Bool.and_eq_true, bne_iff_ne, hplain, List.all_eq_true, isDigit_iff,
    decide_eq_true_iff]
  exact ⟨fun ⟨⟨⟨⟨hn, hl⟩, hd⟩, hu⟩, hv⟩ => ⟨hd, hn, hl, hu, hv⟩,
    fun h => ⟨⟨⟨⟨h.nonempty, h.length_le⟩, h.digits⟩, h.unpadded⟩, h.value_le⟩⟩

theorem isGroup_iff (cs : List Char) : isGroup cs = true ↔ Group cs := by
  simp only [isGroup, Bool.and_eq_true, bne_iff_ne, List.all_eq_true, isHexDigit_iff,
    decide_eq_true_iff]
  exact ⟨fun ⟨⟨hn, hl⟩, hd⟩ => ⟨hd, hn, hl⟩, fun h => ⟨⟨h.nonempty, h.length_le⟩, h.digits⟩⟩

/-- A character outside the digits stands in no octet. -/
theorem Octet.not_mem {cs : List Char} (h : Octet cs) {c : Char} (hc : c.isDigit = false) :
    c ∉ cs := by
  intro hmem
  rw [(isDigit_iff c).mpr (h.digits c hmem)] at hc
  cases hc

theorem Group.not_mem {cs : List Char} (h : Group cs) {c : Char} (hc : isHexDigit c = false) :
    c ∉ cs := by
  intro hmem
  rw [(isHexDigit_iff c).mpr (h.digits c hmem)] at hc
  cases hc

theorem isIPv4_iff (cs : List Char) : isIPv4 cs = true ↔ Quad cs := by
  simp only [isIPv4, Text.splitAll_eq_splitOn, Bool.and_eq_true, beq_iff_eq, List.all_eq_true,
    isOctet_iff]
  constructor
  · rintro ⟨hlength, hoctets⟩
    exact ⟨cs.splitOn '.', hlength, hoctets, List.intercalate_splitOn '.'⟩
  · rintro ⟨octets, hlength, hoctets, rfl⟩
    have hne : octets ≠ [] := List.ne_nil_of_length_eq_add_one hlength
    rw [List.splitOn_intercalate '.' (fun o ho => (hoctets o ho).not_mem rfl) hne]
    exact ⟨hlength, hoctets⟩

/-- A quad is a piece of its own: it has points, which no group has, and no colons. -/
theorem Quad.point_mem {cs : List Char} (h : Quad cs) : '.' ∈ cs := by
  obtain ⟨octets, hlength, -, rfl⟩ := h
  match octets, hlength with
  | a :: b :: rest, _ =>
    rw [List.intercalate_cons_cons]
    simp

theorem Quad.mem {cs : List Char} (h : Quad cs) {c : Char} (hc : c ∈ cs) :
    c = '.' ∨ ('0' ≤ c ∧ c ≤ '9') := by
  obtain ⟨octets, -, hoctets, rfl⟩ := h
  rcases Text.mem_intercalate hc with hc | ⟨o, ho, hc⟩
  · exact .inl hc
  · exact .inr ((hoctets o ho).digits c hc)

theorem isGroup_of_quad {cs : List Char} (h : Quad cs) : isGroup cs = false := by
  rw [← Bool.not_eq_true, isGroup_iff]
  exact fun hg => hg.not_mem rfl h.point_mem

/-- A piece between colons. -/
structure Piece (p : List Char) : Prop where
  nonempty : p ≠ []
  colon_not_mem : ':' ∉ p

theorem Group.piece {g : List Char} (h : Group g) : Piece g := ⟨h.nonempty, h.not_mem rfl⟩

theorem Quad.piece {q : List Char} (h : Quad q) : Piece q := by
  refine ⟨List.ne_nil_of_mem h.point_mem, fun hc => ?_⟩
  rcases h.mem hc with hc | hc
  · exact absurd hc (by decide)
  · exact absurd hc (by decide)

theorem piece_of_mem_append {gs : List (List Char)} {q : List Char} (h : ∀ g ∈ gs, Group g)
    (hq : Quad q) : ∀ p ∈ gs ++ [q], Piece p := by
  intro p hp
  rcases List.mem_append.mp hp with hp | hp
  · exact (h p hp).piece
  · exact List.mem_singleton.mp hp ▸ hq.piece

theorem groups_intercalate {ps : List (List Char)} (h : ∀ p ∈ ps, Piece p) :
    groups ([':'].intercalate ps) = ps := by
  cases ps with
  | nil => rfl
  | cons p ps =>
    have hne : [':'].intercalate (p :: ps) ≠ [] := by
      have hp := (h p List.mem_cons_self).nonempty
      cases ps <;> simp [hp]
    rw [groups, if_neg hne, Text.splitAll_eq_splitOn,
      List.splitOn_intercalate ':' (fun p hp => (h p hp).colon_not_mem) (List.cons_ne_nil p ps)]

theorem intercalate_groups (cs : List Char) : [':'].intercalate (groups cs) = cs := by
  unfold groups
  split
  · next h => rw [h, List.intercalate_nil]
  · exact Text.intercalate_splitAll ':' cs

theorem groupCount?_of_groups (quad : Bool) {ps : List (List Char)} (h : ∀ p ∈ ps, Group p) :
    groupCount? quad ps = some ps.length := by
  induction ps with
  | nil => rfl
  | cons p ps ih =>
    have hp : isGroup p = true := (isGroup_iff p).mpr (h p List.mem_cons_self)
    cases ps with
    | nil => simp [groupCount?, hp]
    | cons r rs =>
      have hrest := ih fun g hg => h g (List.mem_cons_of_mem p hg)
      simp [groupCount?, hp, hrest]

theorem groupCount?_of_quad {gs : List (List Char)} {q : List Char} (h : ∀ g ∈ gs, Group g)
    (hq : Quad q) : groupCount? true (gs ++ [q]) = some (gs.length + 2) := by
  induction gs with
  | nil => simp [groupCount?, isGroup_of_quad hq, (isIPv4_iff q).mpr hq]
  | cons g gs ih =>
    have hg : isGroup g = true := (isGroup_iff g).mpr (h g List.mem_cons_self)
    have hrest := ih fun g' hg' => h g' (List.mem_cons_of_mem g hg')
    cases gs with
    | nil => simp_all [groupCount?]
    | cons r rs => simp_all [groupCount?]

/-- Pieces that are counted are groups, or groups and a quad at the end. -/
theorem of_groupCount? {quad : Bool} {ps : List (List Char)} {n : Nat}
    (h : groupCount? quad ps = some n) :
    (ps.length = n ∧ ∀ p ∈ ps, Group p) ∨
      (quad = true ∧ ∃ gs q, ps = gs ++ [q] ∧ gs.length + 2 = n ∧ (∀ g ∈ gs, Group g) ∧ Quad q) := by
  fun_induction groupCount? quad ps generalizing n with
  | case1 =>
    cases h
    exact .inl ⟨rfl, by simp⟩
  | case2 p hp =>
    cases h
    exact .inl ⟨rfl, by simpa [← isGroup_iff] using hp⟩
  | case3 p hp hq =>
    cases h
    rw [Bool.and_eq_true, isIPv4_iff] at hq
    exact .inr ⟨hq.1, [], p, rfl, rfl, by simp, hq.2⟩
  | case4 p hp hq => cases h
  | case5 p ps hne hp ih =>
    obtain ⟨k, hk, rfl⟩ := Option.map_eq_some_iff.mp h
    have hgroup := (isGroup_iff p).mp hp
    rcases ih hk with ⟨hlength, hall⟩ | ⟨hquad, gs, q, rfl, hlength, hall, hq⟩
    · exact .inl ⟨by simp [hlength], List.forall_mem_cons.mpr ⟨hgroup, hall⟩⟩
    · exact .inr ⟨hquad, p :: gs, q, rfl, by simp only [List.length_cons]; omega,
        List.forall_mem_cons.mpr ⟨hgroup, hall⟩, hq⟩
  | case6 p ps hne hp => cases h

theorem groupCount?_false_iff (n : Nat) (cs : List Char) :
    groupCount? false (groups cs) = some n ↔ Groups n cs := by
  constructor
  · intro h
    rcases of_groupCount? h with ⟨hlength, hall⟩ | ⟨hfalse, -⟩
    · exact ⟨groups cs, hlength, hall, intercalate_groups cs⟩
    · cases hfalse
  · rintro ⟨gs, rfl, hall, rfl⟩
    rw [groups_intercalate fun g hg => (hall g hg).piece, groupCount?_of_groups false hall]

theorem groupCount?_true_iff (n : Nat) (cs : List Char) :
    groupCount? true (groups cs) = some n ↔ Groups n cs ∨ GroupsQuad n cs := by
  constructor
  · intro h
    rcases of_groupCount? h with ⟨hlength, hall⟩ | ⟨-, gs, q, hgs, hlength, hall, hq⟩
    · exact .inl ⟨groups cs, hlength, hall, intercalate_groups cs⟩
    · exact .inr ⟨gs, q, hlength, hall, hq, hgs ▸ intercalate_groups cs⟩
  · rintro (⟨gs, rfl, hall, rfl⟩ | ⟨gs, q, rfl, hall, hq, rfl⟩)
    · rw [groups_intercalate fun g hg => (hall g hg).piece, groupCount?_of_groups true hall]
    · rw [groups_intercalate (piece_of_mem_append hall hq), groupCount?_of_quad hall hq]

theorem eq_of_cutAtGap {cs before after : List Char} (h : cutAtGap cs = some (before, after)) :
    cs = before ++ ':' :: ':' :: after := by
  fun_induction cutAtGap cs generalizing before with
  | case1 rest =>
    cases h
    rfl
  | case2 c cs hgap ih =>
    obtain ⟨⟨b, a⟩, hcut, heq⟩ := Option.map_eq_some_iff.mp h
    cases heq
    rw [ih hcut, List.cons_append]
  | case3 => cases h

theorem cutAtGap_cons {c d : Char} (h : c ≠ ':' ∨ d ≠ ':') (cs : List Char) :
    cutAtGap (c :: d :: cs) = (cutAtGap (d :: cs)).map fun p => (c :: p.1, p.2) := by
  rw [cutAtGap]
  rintro rest rfl hd
  cases hd
  exact h.elim (absurd rfl) (absurd rfl)

/-- No gap begins in a piece. -/
theorem cutAtGap_append {p : List Char} (h : ':' ∉ p) (cs : List Char) :
    cutAtGap (p ++ cs) = (cutAtGap cs).map fun q => (p ++ q.1, q.2) := by
  induction p with
  | nil => simp
  | cons c p ih =>
    have hc : c ≠ ':' := fun e => h (e ▸ List.mem_cons_self)
    have hrest := ih fun hm => h (List.mem_cons_of_mem c hm)
    rw [List.cons_append, cutAtGap, hrest, Option.map_map]
    · rfl
    · rintro rest rfl
      exact absurd rfl hc

theorem exists_head_intercalate {q : List Char} (h : Piece q) (qs : List (List Char)) :
    ∃ d rest, d ≠ ':' ∧ [':'].intercalate (q :: qs) = d :: rest := by
  obtain ⟨hne, hcolon⟩ := h
  cases q with
  | nil => exact absurd rfl hne
  | cons d q =>
    have hd : d ≠ ':' := fun e => hcolon (e ▸ List.mem_cons_self)
    cases qs with
    | nil => exact ⟨d, q, hd, List.intercalate_singleton⟩
    | cons r rs => exact ⟨d, _, hd, List.intercalate_cons_cons⟩

/-- Nor does one begin at a colon between two pieces. -/
theorem cutAtGap_intercalate {ps : List (List Char)} (h : ∀ p ∈ ps, Piece p) (cs : List Char) :
    cutAtGap ([':'].intercalate ps ++ cs) =
      (cutAtGap cs).map fun q => ([':'].intercalate ps ++ q.1, q.2) := by
  induction ps with
  | nil => simp
  | cons p ps ih =>
    have hp := h p List.mem_cons_self
    cases ps with
    | nil =>
      rw [List.intercalate_singleton]
      exact cutAtGap_append hp.colon_not_mem cs
    | cons q qs =>
      have hqs : ∀ r ∈ q :: qs, Piece r := fun r hr => h r (List.mem_cons_of_mem p hr)
      obtain ⟨d, rest, hd, hstart⟩ := exists_head_intercalate (hqs q List.mem_cons_self) qs
      have hrest := ih hqs
      rw [hstart] at hrest
      rw [List.intercalate_cons_cons, hstart, List.append_assoc, List.append_assoc,
        cutAtGap_append hp.colon_not_mem, List.singleton_append, List.cons_append,
        cutAtGap_cons (.inr hd), ← List.cons_append, hrest, Option.map_map, Option.map_map]
      simp [Function.comp_def]

theorem cutAtGap_of_groups {n : Nat} {cs : List Char} (h : Groups n cs ∨ GroupsQuad n cs) :
    cutAtGap cs = none := by
  obtain ⟨ps, hps, rfl⟩ : ∃ ps, (∀ p ∈ ps, Piece p) ∧ [':'].intercalate ps = cs := by
    rcases h with ⟨gs, -, hall, rfl⟩ | ⟨gs, q, -, hall, hq, rfl⟩
    · exact ⟨gs, fun g hg => (hall g hg).piece, rfl⟩
    · exact ⟨gs ++ [q], piece_of_mem_append hall hq, rfl⟩
  have hcut := cutAtGap_intercalate hps []
  rwa [List.append_nil] at hcut

theorem cutAtGap_of_gap {m : Nat} {before : List Char} (h : Groups m before) (after : List Char) :
    cutAtGap (before ++ ':' :: ':' :: after) = some (before, after) := by
  obtain ⟨gs, -, hall, rfl⟩ := h
  rw [cutAtGap_intercalate fun g hg => (hall g hg).piece, cutAtGap, Option.map_some,
    List.append_nil]

theorem isIPv6_iff (cs : List Char) : isIPv6 cs = true ↔ IPv6 cs := by
  constructor
  · intro h
    unfold isIPv6 at h
    split at h
    · exact .full ((groupCount?_true_iff 8 cs).mp (eq_of_beq h))
    · next before after hcut =>
      rw [eq_of_cutAtGap hcut]
      split at h
      · next m n hm hn =>
        rw [groupCount?_false_iff] at hm
        rw [groupCount?_true_iff] at hn
        exact .gap hm hn (Nat.lt_succ_of_le (of_decide_eq_true h))
      · cases h
  · rintro (hfull | ⟨hb, ha, hlt⟩)
    · rw [isIPv6, cutAtGap_of_groups hfull]
      exact beq_iff_eq.mpr ((groupCount?_true_iff 8 _).mpr hfull)
    · rw [isIPv6, cutAtGap_of_gap hb]
      simp only [(groupCount?_false_iff _ _).mpr hb, (groupCount?_true_iff _ _).mpr ha]
      exact decide_eq_true (Nat.le_of_lt_succ hlt)

theorem Quad.length_le {cs : List Char} (h : Quad cs) : cs.length ≤ 15 := by
  obtain ⟨octets, hlength, hoctets, rfl⟩ := h
  have hall : ∀ o ∈ octets, o.length ≤ 3 := fun o ho => (hoctets o ho).length_le
  rcases List.eq_nil_or_concat octets with rfl | ⟨os, o, rfl⟩
  · cases hlength
  · rw [List.concat_eq_append] at hlength hall ⊢
    have hlast := hall o List.mem_concat_self
    have hsum := Text.length_intercalate_le '.' (fun p hp => hall p (List.mem_append_left _ hp)) o
    rw [List.length_append, List.length_singleton] at hlength
    omega

theorem Groups.length_le {n : Nat} {cs : List Char} (h : Groups n cs) : cs.length ≤ 5 * n := by
  obtain ⟨gs, rfl, hgroups, rfl⟩ := h
  have hall : ∀ g ∈ gs, g.length ≤ 4 := fun g hg => (hgroups g hg).length_le
  rcases List.eq_nil_or_concat gs with rfl | ⟨gs, g, rfl⟩
  · exact Nat.le_refl 0
  · rw [List.concat_eq_append] at hall ⊢
    have hlast := hall g List.mem_concat_self
    have hsum := Text.length_intercalate_le ':' (fun p hp => hall p (List.mem_append_left _ hp)) g
    rw [List.length_append, List.length_singleton]
    omega

/-- A quad is at most six characters longer than the two groups that it stands for. -/
theorem GroupsQuad.length_le {n : Nat} {cs : List Char} (h : GroupsQuad n cs) :
    cs.length ≤ 5 * n + 5 := by
  obtain ⟨gs, q, rfl, hall, hq, rfl⟩ := h
  have hsum := Text.length_intercalate_le ':' (fun p hp => (hall p hp).length_le) q
  have hquad := hq.length_le
  omega

/-- The characters of addresses. -/
def AddressChar (c : Char) : Prop := HexDigit c ∨ c = ':' ∨ c = '.'

theorem Quad.chars {cs : List Char} (h : Quad cs) : ∀ c ∈ cs, AddressChar c := by
  intro c hc
  rcases h.mem hc with hc | hc
  · exact .inr (.inr hc)
  · exact .inl (.inl hc)

theorem chars_of_groups {n : Nat} {cs : List Char} (h : Groups n cs ∨ GroupsQuad n cs) :
    ∀ c ∈ cs, AddressChar c := by
  intro c hc
  rcases h with ⟨gs, -, hall, rfl⟩ | ⟨gs, q, -, hall, hq, rfl⟩
  · rcases Text.mem_intercalate hc with hc | ⟨g, hg, hc⟩
    · exact .inr (.inl hc)
    · exact .inl ((hall g hg).digits c hc)
  · rcases Text.mem_intercalate hc with hc | ⟨p, hp, hc⟩
    · exact .inr (.inl hc)
    · rcases List.mem_append.mp hp with hp | hp
      · exact .inl ((hall p hp).digits c hc)
      · exact hq.chars c (List.mem_singleton.mp hp ▸ hc)

/-- Six groups and a quad make the longest address. -/
theorem length_le_of_written {cs : List Char} (h : Quad cs ∨ IPv6 cs) : cs.length ≤ 45 := by
  rcases h with hq | hfull | ⟨hb, ha, hlt⟩
  · exact Nat.le_trans hq.length_le (by decide)
  · rcases hfull with hg | hg
    · exact Nat.le_trans hg.length_le (by decide)
    · exact hg.length_le
  · have hbefore := hb.length_le
    rw [List.length_append, List.length_cons, List.length_cons]
    rcases ha with hg | hg
    · have hafter := hg.length_le
      omega
    · have hafter := hg.length_le
      omega

theorem chars_of_written {cs : List Char} (h : Quad cs ∨ IPv6 cs) :
    ∀ c ∈ cs, AddressChar c := by
  rcases h with hq | hfull | ⟨hb, ha, -⟩
  · exact hq.chars
  · exact chars_of_groups hfull
  · intro c hc
    simp only [List.mem_append, List.mem_cons] at hc
    rcases hc with hc | hc | hc | hc
    · exact chars_of_groups (.inl hb) c hc
    · exact .inr (.inl hc)
    · exact .inr (.inl hc)
    · exact chars_of_groups ha c hc

/-- Where no zone is named the readers of the two versions decide. -/
theorem isLiteral_of_not_mem {cs : List Char} (h : '%' ∉ cs) :
    isLiteral cs = (isIPv4 cs || isIPv6 cs) := by
  rw [isLiteral, isZonedIPv6, Text.cutAt_of_not_mem h]

theorem written_of_isAddress {s : String} (h : isAddress s = true) :
    Quad s.toList ∨ IPv6 s.toList := by
  simp only [isAddress, Bool.and_eq_true, Bool.not_eq_true', List.contains_eq_mem,
    decide_eq_false_iff_not] at h
  obtain ⟨⟨-, hzone⟩, hliteral⟩ := h
  rwa [isLiteral_of_not_mem hzone, Bool.or_eq_true, isIPv4_iff, isIPv6_iff] at hliteral

/-- A text is taken for an address exactly if it is a dotted quad or an IPv6 text without a zone. -/
theorem isAddress_iff_written (s : String) :
    isAddress s = true ↔ Quad s.toList ∨ IPv6 s.toList := by
  refine ⟨written_of_isAddress, fun h => ?_⟩
  have hzone : '%' ∉ s.toList := by
    intro hmem
    rcases chars_of_written h '%' hmem with hc | hc | hc
    · exact absurd hc (by decide)
    · exact absurd hc (by decide)
    · exact absurd hc (by decide)
  have hliteral : isLiteral s.toList = true := by
    rwa [isLiteral_of_not_mem hzone, Bool.or_eq_true, isIPv4_iff, isIPv6_iff]
  have hne : s ≠ "" := by
    rintro rfl
    exact absurd hliteral (by decide)
  simp only [isAddress, Bool.and_eq_true, Bool.not_eq_true', List.contains_eq_mem,
    decide_eq_false_iff_not, bne_iff_ne]
  exact ⟨⟨hne, hzone⟩, hliteral⟩

end Address
end AccessLog
