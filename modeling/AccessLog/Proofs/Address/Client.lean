import AccessLog.Exchange.Request
import AccessLog.Proofs.Address.Grammar

/-!
Where a client's address comes from. All that may tell it is one list of texts, in the order in
which they are asked, and the first address among them is taken. So nothing but an address or a dash
is ever logged for it, whatever the headers say.
-/
namespace AccessLog.Request

open Address (isAddress)

/-- Of `host:port` the host; a text with no colon, or with more of them, stays as it is. -/
def hostOf (entry : List Char) : List Char :=
  match entry.splitOn ':' with
  | [host, _] => host
  | _ => entry

/-- The entries of a forwarding list, without the blanks around them and without ports. -/
def entries (list : String) : List String :=
  (list.toList.splitOn ',').map fun entry => String.ofList (hostOf (Text.trim entry))

/-- The texts that may tell the client's address, in the order in which they are asked. -/
def candidates (r : Request) : List String :=
  let header (name : String) : List String := (r.headers.field? name).toList
  header "x-client-ip" ++ (header "x-forwarded-for").flatMap entries ++ header "x-real-ip" ++
    header "x-forwarded" ++ header "forwarded-for" ++ r.peer.toList ++ r.legacyPeer.toList

/-- The first address of a list, or a dash where there is none. -/
def firstAddress (texts : List String) : String := (texts.find? isAddress).getD "-"

theorem isAddress_dash : isAddress "-" = false := by decide

theorem firstAddress_eq_dash_iff (texts : List String) :
    firstAddress texts = "-" ↔ ∀ t ∈ texts, isAddress t = false := by
  unfold firstAddress
  constructor
  · intro h
    cases hfind : texts.find? isAddress with
    | none => simpa using hfind
    | some t =>
      rw [hfind, Option.getD_some] at h
      rw [h] at hfind
      exact absurd (List.find?_some hfind) (by rw [isAddress_dash]; exact Bool.false_ne_true)
  · intro h
    rw [List.find?_eq_none.mpr fun t ht => by rw [h t ht]; exact Bool.false_ne_true]
    rfl

/-- The later texts count only where the earlier ones tell nothing. -/
theorem firstAddress_append (a b : List String) :
    firstAddress (a ++ b) = if firstAddress a = "-" then firstAddress b else firstAddress a := by
  split
  · next h =>
    have hnone : a.find? isAddress = none := by
      simpa using (firstAddress_eq_dash_iff a).mp h
    rw [firstAddress, List.find?_append, hnone, Option.none_or]
    rfl
  · next h =>
    cases hfind : a.find? isAddress with
    | none => exact absurd (by rw [firstAddress, hfind]; rfl) h
    | some t => rw [firstAddress, firstAddress, List.find?_append, hfind]; rfl

theorem firstAddress_written (texts : List String) :
    firstAddress texts = "-" ∨
      ((firstAddress texts).length ≤ 45 ∧
        ∀ c ∈ (firstAddress texts).toList, Address.AddressChar c) := by
  unfold firstAddress
  cases hfind : texts.find? isAddress with
  | none => exact .inl rfl
  | some t =>
    have hwritten := Address.written_of_isAddress (List.find?_some hfind)
    exact .inr ⟨Address.length_le_of_written hwritten, Address.chars_of_written hwritten⟩

/-- Cutting an entry at its only colon takes the host. -/
theorem forwardedEntry_eq (cs : List Char) :
    forwardedEntry cs = String.ofList (hostOf (Text.trim cs)) := by
  simp only [forwardedEntry]
  generalize Text.trim cs = entry
  by_cases hmem : ':' ∈ entry
  · obtain ⟨host, rest, rfl, hhost⟩ := List.eq_append_cons_of_mem hmem
    have hcount : (host ++ ':' :: rest).count ':' = rest.count ':' + 1 := by
      rw [List.count_append, List.count_eq_zero.mpr hhost, List.count_cons_self, Nat.zero_add]
    by_cases hrest : ':' ∈ rest
    · -- two colons at least, and so three pieces at least
      have hne : ¬ (host ++ ':' :: rest).count ':' = 1 := by
        have hpos := List.count_pos_iff.mpr hrest
        omega
      obtain ⟨port, more, rfl, hport⟩ := List.eq_append_cons_of_mem hrest
      rw [if_neg hne, hostOf, List.splitOn_append_cons_self, List.splitOn_append_cons_self,
        List.splitOn_eq_singleton hhost, List.splitOn_eq_singleton hport]
      cases hmore : more.splitOn ':' with
      | nil => exact absurd hmore (List.splitOn_ne_nil ':' more)
      | cons p ps => rfl
    · have hone : (host ++ ':' :: rest).count ':' = 1 := by
        rw [hcount, List.count_eq_zero.mpr hrest]
      have hin : ∀ c ∈ host, decide (c ≠ ':') = true := by
        intro c hc
        exact decide_eq_true fun e => hhost (e ▸ hc)
      have htake : (host ++ ':' :: rest).takeWhile (· ≠ ':') = host := by
        rw [List.takeWhile_append_of_pos hin]
        simp
      rw [if_pos hone, htake, hostOf, List.splitOn_append_cons_self,
        List.splitOn_eq_singleton hhost, List.splitOn_eq_singleton hrest]
      rfl
  · have hne : ¬ entry.count ':' = 1 := by
      rw [List.count_eq_zero.mpr hmem]
      exact Nat.zero_ne_one
    rw [if_neg hne, hostOf, List.splitOn_eq_singleton hmem]

theorem find?_toList (value : Option String) : value.toList.find? isAddress = accepted value := by
  cases value with
  | none => rfl
  | some s => cases h : isAddress s <;> simp [accepted, Option.filter_some, h]

theorem find?_entries (value : Option String) :
    (value.toList.flatMap entries).find? isAddress = forwardedFor? value := by
  cases value with
  | none => rfl
  | some list =>
    have hentry : forwardedEntry = fun cs => String.ofList (hostOf (Text.trim cs)) :=
      funext forwardedEntry_eq
    simp only [forwardedFor?, hentry, Text.splitAll_eq_splitOn, Option.toList_some,
      List.flatMap_cons, List.flatMap_nil, List.append_nil, entries]

theorem forwardedFor_eq (value : Option String) :
    forwardedFor value = firstAddress (value.toList.flatMap entries) := by
  rw [forwardedFor, firstAddress, find?_entries]

theorem clientAddress_eq (r : Request) : r.clientAddress = firstAddress r.candidates := by
  simp only [clientAddress, firstAddress, candidates, List.find?_append, find?_toList,
    find?_entries, Option.orElse_eq_orElse, Option.orElse_eq_or, Option.or_assoc]

/-- A list that is longer by a comma has the entries of both lists. -/
theorem entries_append (a b : String) : entries (a ++ "," ++ b) = entries a ++ entries b := by
  have hchars : (a ++ "," ++ b).toList = a.toList ++ ',' :: b.toList := by simp
  rw [entries, hchars, List.splitOn_append_cons_self, List.map_append]
  rfl

/-- The client's address is the first address among the candidates, or a dash exactly where none of
them is one. Of two lists of proxies joined by a comma the second counts only where the first names
no address. The answer is a dash, or else it is short and has only the characters of addresses. -/
theorem clientAddress_first :
    (∀ r : Request, r.clientAddress = (r.candidates.find? isAddress).getD "-" ∧
      (r.clientAddress = "-" ↔ ∀ t ∈ r.candidates, isAddress t = false)) ∧
    (∀ a b : String, forwardedFor (some (a ++ "," ++ b)) =
      if forwardedFor (some a) = "-" then forwardedFor (some b) else forwardedFor (some a)) ∧
    (∀ r : Request, r.clientAddress = "-" ∨ (r.clientAddress.length ≤ 45 ∧
      ∀ c ∈ r.clientAddress.toList, Address.HexDigit c ∨ c = ':' ∨ c = '.')) := by
  refine ⟨fun r => ⟨r.clientAddress_eq, ?_⟩, fun a b => ?_, fun r => ?_⟩
  · rw [clientAddress_eq]
    exact firstAddress_eq_dash_iff r.candidates
  · have hentries : ∀ s : String, (some s).toList.flatMap entries = entries s := by simp
    rw [forwardedFor_eq, forwardedFor_eq, forwardedFor_eq, hentries, hentries, hentries,
      entries_append]
    exact firstAddress_append (entries a) (entries b)
  · rw [clientAddress_eq]
    exact firstAddress_written r.candidates

end AccessLog.Request
