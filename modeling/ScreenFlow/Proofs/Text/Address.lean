import ScreenFlow.Proofs.Text.Cut
import ScreenFlow.Proofs.Text.Takes
import ScreenFlow.Text.Pattern.Reader
import ScreenFlow.Validation

/-!
# Addresses in a text

A text holds an address if a word, an at sign, a word, a point and a word follow each other somewhere
in it (`HoldsAddress`), where a word is not empty and has no blanks; it may have at signs and points.

1. In a text that is read from its start on, the first at sign with something before it will do, since
   all that may come later is still behind it (`startsAddress_iff`).
2. Such a text need not be read beyond the next blank, and the rest of the last word belongs to the
   address as well as not (`hasAddress_iff`).

What holds an address is what `addressPattern` takes a part of (`holdsAddress_iff_takes`).
-/

namespace ScreenFlow.Text

/-- Something without blanks. -/
def IsWord (cs : List Char) : Prop := cs ≠ [] ∧ ∀ c ∈ cs, isBlank c = false

/-- The address of a user at a host in a domain. -/
def address (user host domain : List Char) : List Char := user ++ '@' :: (host ++ '.' :: domain)

/-- An address stands somewhere in a text. -/
def HoldsAddress (cs : List Char) : Prop :=
  ∃ before user host domain after, IsWord user ∧ IsWord host ∧ IsWord domain ∧
    cs = before ++ address user host domain ++ after

theorem forall_mem_address_iff {user host domain : List Char} :
    (∀ c ∈ address user host domain, isBlank c = false) ↔
      (∀ c ∈ user, isBlank c = false) ∧ (∀ c ∈ host, isBlank c = false) ∧
        ∀ c ∈ domain, isBlank c = false := by
  have hat : isBlank '@' = false := by decide
  have hpoint : isBlank '.' = false := by decide
  simp only [address, List.forall_mem_append, List.forall_mem_cons, hat, hpoint, true_and]

/-! ## From the start on -/

/-- A sign that is neither the first of a list nor the last. -/
theorem mem_dropLast_tail_iff {α : Type} {x : α} {xs : List α} :
    x ∈ (xs.drop 1).dropLast ↔
      ∃ before after, before ≠ [] ∧ after ≠ [] ∧ xs = before ++ x :: after := by
  constructor
  · intro h
    obtain ⟨first, rest, rfl⟩ := List.exists_cons_of_ne_nil (l := xs) (by rintro rfl; cases h)
    have hne : rest ≠ [] := by rintro rfl; cases h
    obtain ⟨before, after, hsplit⟩ := List.append_of_mem h
    refine ⟨first :: before, after ++ [rest.getLast hne], by simp, by simp, ?_⟩
    calc first :: rest = first :: (rest.dropLast ++ [rest.getLast hne]) := by
          rw [List.dropLast_concat_getLast]
      _ = first :: (before ++ x :: after ++ [rest.getLast hne]) := congrArg (first :: · ++ _) hsplit
      _ = first :: before ++ x :: (after ++ [rest.getLast hne]) := by simp
  · rintro ⟨before, after, hbefore, hafter, rfl⟩
    obtain ⟨first, before, rfl⟩ := List.exists_cons_of_ne_nil hbefore
    show x ∈ (before ++ x :: after).dropLast
    rw [List.dropLast_append_cons, List.dropLast_cons_of_ne_nil hafter]
    exact List.mem_append_right _ List.mem_cons_self

theorem startsAddress_iff {cs : List Char} :
    startsAddress cs = true ↔ ∃ user host domain, user ≠ [] ∧ host ≠ [] ∧ domain ≠ [] ∧
      cs = address user host domain := by
  unfold startsAddress
  constructor
  · intro h
    split at h
    · cases h
    next sign rest hrest =>
      obtain ⟨rfl, hsplit⟩ := eq_append_cons_of_dropWhile_ne hrest
      obtain ⟨host, domain, hhost, hdomain, rfl⟩ :=
        mem_dropLast_tail_iff.1 (List.contains_iff_mem.1 h)
      obtain ⟨first, more, rfl⟩ := List.exists_cons_of_ne_nil (l := cs) (by rintro rfl; cases hrest)
      refine ⟨first :: more.takeWhile (· ≠ '@'), host, domain, by simp, hhost, hdomain, ?_⟩
      exact congrArg (first :: ·) hsplit
  · rintro ⟨user, host, domain, huser, hhost, hdomain, rfl⟩
    obtain ⟨first, user, rfl⟩ := List.exists_cons_of_ne_nil huser
    -- an earlier at sign leaves more for the host
    obtain ⟨more, hmore⟩ := exists_dropWhile_ne (x := '@') user (host ++ '.' :: domain)
    have hrest : ((address (first :: user) host domain).drop 1).dropWhile (· ≠ '@') =
        '@' :: (more ++ (host ++ '.' :: domain)) := hmore
    rw [hrest]
    refine List.contains_iff_mem.2 (mem_dropLast_tail_iff.2 ⟨more ++ host, domain, ?_, hdomain, ?_⟩)
    · exact List.append_ne_nil_of_right_ne_nil more hhost
    · rw [List.append_assoc]

/-! ## Anywhere -/

theorem hasAddress_iff_startsAddress {cs : List Char} :
    hasAddress cs = true ↔
      ∃ before after, cs = before ++ after ∧ startsAddress (after.takeWhile (!isBlank ·)) = true := by
  induction cs with
  | nil =>
    refine iff_of_false nofun ?_
    rintro ⟨before, after, hsplit, hstarts⟩
    rw [(List.nil_eq_append_iff.1 hsplit).2] at hstarts
    cases hstarts
  | cons c cs ih =>
    rw [hasAddress, Bool.or_eq_true, ih]
    constructor
    · rintro (hstarts | ⟨before, after, rfl, hstarts⟩)
      · exact ⟨[], c :: cs, rfl, hstarts⟩
      · exact ⟨c :: before, after, rfl, hstarts⟩
    · rintro ⟨before, after, hsplit, hstarts⟩
      rcases List.cons_eq_append_iff.1 hsplit with ⟨_, rfl⟩ | ⟨before, _, rfl⟩
      · exact Or.inl hstarts
      · exact Or.inr ⟨before, after, rfl, hstarts⟩

theorem hasAddress_iff {cs : List Char} : hasAddress cs = true ↔ HoldsAddress cs := by
  rw [hasAddress_iff_startsAddress]
  constructor
  · rintro ⟨before, after, rfl, hstarts⟩
    obtain ⟨user, host, domain, huser, hhost, hdomain, hword⟩ := startsAddress_iff.1 hstarts
    have hnoblank : ∀ c ∈ address user host domain, isBlank c = false := by
      intro c hc
      rw [← hword] at hc
      simpa using List.mem_takeWhile_imp hc
    obtain ⟨huser', hhost', hdomain'⟩ := forall_mem_address_iff.1 hnoblank
    refine ⟨before, user, host, domain, after.dropWhile (!isBlank ·), ⟨huser, huser'⟩,
      ⟨hhost, hhost'⟩, ⟨hdomain, hdomain'⟩, ?_⟩
    rw [← hword, List.append_assoc, List.takeWhile_append_dropWhile]
  · rintro ⟨before, user, host, domain, after, huser, hhost, hdomain, rfl⟩
    refine ⟨before, address user host domain ++ after, List.append_assoc .., ?_⟩
    have hnoblank := forall_mem_address_iff.2 ⟨huser.2, hhost.2, hdomain.2⟩
    have hword : (address user host domain ++ after).takeWhile (!isBlank ·) =
        address user host (domain ++ after.takeWhile (!isBlank ·)) := by
      rw [List.takeWhile_append_of_pos fun c hc => by simpa using hnoblank c hc]
      simp [address]
    rw [hword]
    exact startsAddress_iff.2 ⟨user, host, _, huser.1, hhost.1,
      List.append_ne_nil_of_left_ne_nil hdomain.1 _, rfl⟩

/-- A point right after the at sign is part of a word, and so is a second at sign. -/
example : hasAddress "a@.b".toList = false ∧ hasAddress "a@.b.c".toList = true ∧
    hasAddress "a@@.b".toList = true := by
  decide

/-! ## The pattern -/

/-- Any character but a blank. -/
def noBlanks : CharSet := CharSet.blanks.complement

/-- A word, an at sign, a word, a point and a word. -/
def addressPattern : Pattern :=
  .inSequence [.plus (.one noBlanks) true, .one (.single '@'), .plus (.one noBlanks) true,
    .one (.single '.'), .plus (.one noBlanks) true]

theorem ofText?_address : Pattern.ofText? "\\S+@\\S+\\.\\S+" = some addressPattern := by
  decide +kernel

theorem takes_address_iff {cs : List Char} {groups : List (Nat × List Char)} :
    addressPattern.Takes cs groups ↔ groups = [] ∧ ∃ user host domain,
      IsWord user ∧ IsWord host ∧ IsWord domain ∧ cs = address user host domain := by
  have hparts : addressPattern = .sequence (.plus (.one noBlanks) true) (.sequence
      (.one (.single '@')) (.sequence (.plus (.one noBlanks) true) (.sequence (.one (.single '.'))
        (.plus (.one noBlanks) true)))) := rfl
  have hnoblank : ∀ c, noBlanks.contains c = true ↔ isBlank c = false := fun c => by
    rw [noBlanks, CharSet.contains_complement, CharSet.contains_blanks, Bool.not_eq_true']
  simp only [hparts, Pattern.takes_plus_sequence_iff, Pattern.takes_single_sequence_iff,
    Pattern.takes_plus_one_iff, hnoblank]
  constructor
  · rintro ⟨user, _, huser, huser', rfl, _, rfl, host, _, hhost, hhost', rfl, domain, rfl, hdomain,
      hdomain', rfl⟩
    exact ⟨rfl, user, host, domain, ⟨huser, huser'⟩, ⟨hhost, hhost'⟩, ⟨hdomain, hdomain'⟩, rfl⟩
  · rintro ⟨rfl, user, host, domain, ⟨huser, huser'⟩, ⟨hhost, hhost'⟩, ⟨hdomain, hdomain'⟩, rfl⟩
    exact ⟨user, _, huser, huser', rfl, _, rfl, host, _, hhost, hhost', rfl, domain, rfl, hdomain,
      hdomain', rfl⟩

/-- A text holds an address exactly if the pattern takes a part of it. -/
theorem holdsAddress_iff_takes {cs : List Char} :
    HoldsAddress cs ↔ ∃ before taken after groups, addressPattern.Takes taken groups ∧
      cs = before ++ taken ++ after := by
  simp only [takes_address_iff]
  constructor
  · rintro ⟨before, user, host, domain, after, huser, hhost, hdomain, rfl⟩
    exact ⟨before, _, after, [], ⟨rfl, user, host, domain, huser, hhost, hdomain, rfl⟩, rfl⟩
  · rintro ⟨before, _, after, _, ⟨_, user, host, domain, huser, hhost, hdomain, rfl⟩, rfl⟩
    exact ⟨before, user, host, domain, after, huser, hhost, hdomain, rfl⟩

end ScreenFlow.Text
