import RpiRobot.RepositoryStatements

/-!
# Repeated parameters and large pages

`HttpRequestParams` looks for the last value of every key but `size`, of which it takes the
first. The offset of a page is a product of two numbers of type `int`, which becomes a `long`
only when it is stored.
-/

namespace PageParameters

open DecimalText (StdError stoi intMax)
open Repositories
open RepositoryStatements (int_ne_empty)
open RequestParams
open SqlBuilder (SelectModel)

variable {params : Params} {key : String} {p : HttpRequestParams} {size page : Int}

/-! ## Repeated keys -/

/-- Each key with its last value, at the place of that value. -/
def lastOccurrences : Params → Params
  | [] => []
  | item :: rest =>
    if rest.any (fun other => other.1 == item.1) then lastOccurrences rest
    else item :: lastOccurrences rest

lemma findLast_cons (item : String × String) (rest : Params) (key : String) :
    Params.findLast (item :: rest) key =
      (rest.findLast key).or (if key = item.1 then some item.2 else none) := by
  rw [Params.findLast, List.reverse_cons, List.lookup_append, List.lookup_singleton,
    Params.findLast]
  simp

/-- A key is found just if some item has it. -/
lemma findLast_isSome (params : Params) (key : String) :
    (params.findLast key).isSome = params.any fun item => item.1 == key := by
  induction params with
  | nil => rfl
  | cons item rest ih =>
    rw [findLast_cons, Option.isSome_or, ih, List.any_cons, Bool.or_comm]
    by_cases hkey : key = item.1
    · simp [hkey]
    · simp [hkey, Ne.symm hkey]

/-- An item after which its key comes again is not the last of its key, nor is any other key
found in it. -/
lemma findLast_of_later {item : String × String} {rest : Params}
    (h : rest.any (fun other => other.1 == item.1) = true) (key : String) :
    Params.findLast (item :: rest) key = rest.findLast key := by
  rw [findLast_cons]
  split_ifs with hkey
  · rw [← findLast_isSome, ← hkey] at h
    exact Option.or_of_isSome h
  · exact Option.or_none

lemma findLast_of_last {item : String × String} {rest : Params}
    (h : ¬ rest.any (fun other => other.1 == item.1) = true) (key : String) :
    Params.findLast (item :: rest) key =
      if key = item.1 then some item.2 else rest.findLast key := by
  rw [findLast_cons]
  split_ifs with hkey
  · rw [← findLast_isSome, ← hkey, Option.not_isSome_iff_eq_none] at h
    rw [h, Option.none_or]
  · exact Option.or_none

/-- The first value that is left is the last. -/
lemma find_lastOccurrences (params : Params) (key : String) :
    (lastOccurrences params).find key = params.findLast key := by
  induction params with
  | nil => rfl
  | cons item rest ih =>
    rw [lastOccurrences]
    split_ifs with hlater
    · rw [ih, findLast_of_later hlater]
    · rw [findLast_of_last hlater, ← ih, Params.find, List.lookup_cons, Params.find]
      by_cases hkey : key = item.1
      · simp [hkey]
      · have hfirst : (key == item.1) = false := beq_false_of_ne hkey
        simp [hkey, hfirst]

lemma findLast_lastOccurrences (params : Params) (key : String) :
    (lastOccurrences params).findLast key = params.findLast key := by
  induction params with
  | nil => rfl
  | cons item rest ih =>
    rw [lastOccurrences]
    split_ifs with hlater
    · rw [ih, findLast_of_later hlater]
    · rw [findLast_cons, findLast_cons, ih]

/-- The filter and the page number are those of the last values. -/
lemma filterOf_lastOccurrences (params : Params) :
    HttpRequestParams.filterOf (lastOccurrences params) = HttpRequestParams.filterOf params := by
  simp only [filterOf_eq, findLast_lastOccurrences]

lemma offsetOf_lastOccurrences (params : Params) (size : Int) :
    HttpRequestParams.offsetOf (lastOccurrences params) size =
      HttpRequestParams.offsetOf params size := by
  rw [HttpRequestParams.offsetOf, findLast_lastOccurrences, HttpRequestParams.offsetOf]

/-- The first size and the last one are read as the same number. -/
def SameSize (params : Params) : Prop :=
  (params.findLast "size").map stoi = (params.find "size").map stoi

instance (params : Params) : Decidable (SameSize params) :=
  inferInstanceAs (Decidable (_ = _))

lemma find_isSome (params : Params) (key : String) :
    (params.find key).isSome = (params.findLast key).isSome := by
  rw [findLast_isSome, Bool.eq_iff_iff, Params.find, List.lookup_isSome_iff, List.any_eq_true]
  simp only [beq_iff_eq, @eq_comm _ key]

lemma sameSize_iff (params : Params) :
    SameSize params ↔
      HttpRequestParams.sizeOf (lastOccurrences params) = HttpRequestParams.sizeOf params := by
  have hboth := find_isSome params "size"
  rw [SameSize, HttpRequestParams.sizeOf, HttpRequestParams.sizeOf, find_lastOccurrences]
  cases hfirst : params.find "size" with
  | none =>
    have hlast : params.findLast "size" = none := by simpa [hfirst] using hboth.symm
    simp [hlast]
  | some first =>
    rw [hfirst] at hboth
    obtain ⟨last, hlast⟩ := Option.isSome_iff_exists.mp hboth.symm
    simp [hlast]

lemma of_size (h : HttpRequestParams.of params = .ok p) :
    HttpRequestParams.sizeOf params = .ok p.page.size := by
  rw [HttpRequestParams.of] at h
  cases hsize : HttpRequestParams.sizeOf params with
  | error e =>
    rw [hsize] at h
    cases h
  | ok size =>
    rw [hsize] at h
    cases hoffset : HttpRequestParams.offsetOf params size with
    | error e =>
      simp [hoffset, bind, Except.bind] at h
    | ok offset =>
      simp only [hoffset, bind, Except.bind, pure, Except.pure, Except.ok.injEq] at h
      rw [← h]

lemma of_eq_ok {offset : Int} (hsize : HttpRequestParams.sizeOf params = .ok size)
    (hoffset : HttpRequestParams.offsetOf params size = .ok offset) :
    HttpRequestParams.of params =
      .ok ⟨HttpRequestParams.filterOf params, ⟨offset, size, true⟩⟩ := by
  rw [HttpRequestParams.of, hsize]
  simp only [bind, Except.bind, hoffset]
  rfl

/-- The last values decide just if the first size is read like the last one. -/
theorem of_lastOccurrences_iff (h : HttpRequestParams.of params = .ok p) :
    HttpRequestParams.of (lastOccurrences params) = .ok p ↔ SameSize params := by
  rw [sameSize_iff]
  constructor
  · intro hlast
    rw [of_size h, of_size hlast]
  · intro hsize
    rw [← h, HttpRequestParams.of, HttpRequestParams.of, hsize, filterOf_lastOccurrences]
    simp only [offsetOf_lastOccurrences]

/-- One size written in two ways. -/
theorem of_lastOccurrences_twice :
    HttpRequestParams.of (lastOccurrences [("size", "05"), ("page", "1"), ("size", "5"),
        ("page", "2")]) = .ok ⟨[], ⟨10, 5, true⟩⟩ ↔
      SameSize [("size", "05"), ("page", "1"), ("size", "5"), ("page", "2")] :=
  of_lastOccurrences_iff (of_eq_ok (by decide) (by decide))

/-- The first size is taken, but the last page. -/
theorem first_size_wins :
    HttpRequestParams.of [("size", "5"), ("size", "7"), ("page", "1"), ("page", "2")] =
        .ok ⟨[], ⟨10, 5, true⟩⟩ ∧
      HttpRequestParams.of (lastOccurrences [("size", "5"), ("size", "7"), ("page", "1"),
        ("page", "2")]) = .ok ⟨[], ⟨14, 7, true⟩⟩ :=
  ⟨of_eq_ok (by decide) (by decide), of_eq_ok (by decide) (by decide)⟩

/-! ## Large pages -/

/-- The number of the page, which is the first without one. -/
def pageOf (params : Params) : Except StdError Int :=
  match params.findLast "page" with
  | some value => stoi value
  | none => .ok 0

lemma offsetOf_eq (h : pageOf params = .ok page) (size : Int) :
    HttpRequestParams.offsetOf params size = .ok ((size * page).bmod (2 ^ 32)) := by
  rw [pageOf] at h
  rw [HttpRequestParams.offsetOf]
  cases hlast : params.findLast "page" with
  | none =>
    simp only [hlast, Except.ok.injEq] at h
    rw [← h, Int.mul_zero]
    rfl
  | some value =>
    simp only [hlast] at h
    simp only [h, Except.map]

/-- A number that is not negative is kept by an `int` just if it is not too large. -/
lemma bmod_eq_self_iff {n : Int} (h : 0 ≤ n) : n.bmod (2 ^ 32) = n ↔ n ≤ intMax := by
  have hdef : n.bmod (2 ^ 32) =
      if n % 4294967296 < 2147483648 then n % 4294967296 else n % 4294967296 - 4294967296 :=
    Int.bmod_def n (2 ^ 32)
  rw [hdef, intMax]
  split_ifs <;> omega

/-- What the repositories select for a page. -/
def selects (p : HttpRequestParams) : List SelectModel := [
  RegistryRepository.selectData p.filter p.page,
  DeviceRepository.selectData p.filter p.page,
  DeviceTelemetryRepository.selectData p.filter p.page]

/-- The offset clause is the last one of the statement. -/
def EndsWithOffset (m : SelectModel) (n : Int) : Prop :=
  ∃ front, m.str = front ++ (" offset " ++ toString n)

lemma endsWithOffset {m : SelectModel} {n : Int} (h : m.offset = toString n) :
    EndsWithOffset m n := by
  obtain ⟨front, hfront⟩ :
      ∃ front, m.str = front ++ SqlBuilder.textClause " offset " m.offset := ⟨_, rfl⟩
  refine ⟨front, ?_⟩
  rw [hfront, h, SqlBuilder.textClause, if_neg (int_ne_empty n)]

/-- The request gets the page from there on. -/
def StartsAt (params : Params) (n : Int) : Prop :=
  ∃ p, HttpRequestParams.of params = .ok p ∧ p.page.offset = n ∧
    ∀ m ∈ selects p, EndsWithOffset m n

lemma selects_offset (p : HttpRequestParams) :
    ∀ m ∈ selects p, EndsWithOffset m p.page.offset := by
  intro m hm
  simp only [selects, List.mem_cons, List.not_mem_nil, or_false] at hm
  rcases hm with rfl | rfl | rfl
  · exact endsWithOffset rfl
  · exact endsWithOffset rfl
  · exact endsWithOffset rfl

/-- The offset is the product just if an `int` holds the product. -/
theorem startsAt_iff (hsize : HttpRequestParams.sizeOf params = .ok size)
    (hpage : pageOf params = .ok page) (hsize' : 0 ≤ size) (hpage' : 0 ≤ page) :
    StartsAt params (size * page) ↔ size * page ≤ intMax := by
  have hof := of_eq_ok hsize (offsetOf_eq hpage size)
  rw [← bmod_eq_self_iff (Int.mul_nonneg hsize' hpage')]
  constructor
  · rintro ⟨p, hp, hoffset, -⟩
    rw [hof] at hp
    rw [← Except.ok.inj hp] at hoffset
    exact hoffset
  · intro hbmod
    refine ⟨_, hof, hbmod, fun m hm => ?_⟩
    have hoffset := selects_offset _ m hm
    rwa [hbmod] at hoffset

theorem startsAt_third :
    StartsAt [("size", "20"), ("page", "3")] (20 * 3) ↔ (20 * 3 : Int) ≤ intMax :=
  startsAt_iff (by decide) (by decide) (by decide) (by decide)

/-- A page of `2 ^ 16` rows, and the `2 ^ 15`th of them. -/
theorem startsAt_negative :
    (HttpRequestParams.of [("size", "65536"), ("page", "32768")]).map (·.page.offset) =
        .ok (-2147483648) ∧
      ¬ StartsAt [("size", "65536"), ("page", "32768")] (65536 * 32768) := by
  have hof : HttpRequestParams.of [("size", "65536"), ("page", "32768")] =
      .ok ⟨[], ⟨-2147483648, 65536, true⟩⟩ := of_eq_ok (by decide) (by decide)
  refine ⟨by rw [hof]; rfl, ?_⟩
  rintro ⟨p, hp, hoffset, -⟩
  rw [hof] at hp
  rw [← Except.ok.inj hp] at hoffset
  exact absurd hoffset (by decide)

end PageParameters
