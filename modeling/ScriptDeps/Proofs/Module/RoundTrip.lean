import Mathlib.Data.List.Induction
import ScriptDeps.Proofs.Module.Catalog

namespace ScriptDeps

open Text (lit before)

/-! # Catalogs written and read again

A catalog is written as a value that describes it, so that nothing is lost by writing it and reading
it again. A value that describes a catalog is brought into a normal form that way: the modules are
sorted, and the packages with their versions stay as they are. Main statements:

* `NameSet.ofList_names`: a set of names is the set of the names in it;
* `Module.ofJson_toJson`: what is written is read as the same catalog;
* `Module.catalog_restored`: which values describe catalogs, and what is kept of them.
-/

/-! ## Sets of names -/

namespace Text

/-- What comes after all texts of an ordered list is added at its end. -/
theorem insertOrdered_eq_concat {x : Text} {ys : List Text} (h : ∀ y ∈ ys, before y x = true) :
    insertOrdered x ys = ys ++ [x] := by
  induction ys with
  | nil => rfl
  | cons y ys ih =>
    have hyx := h y List.mem_cons_self
    have hxy : ¬ before x y = true := by
      intro hxy
      have hloop := before_trans hxy hyx
      rw [before_irrefl] at hloop
      cases hloop
    rw [insertOrdered, if_neg hxy, if_pos hyx, ih fun z hz => h z (List.mem_cons_of_mem y hz)]
    rfl

end Text

namespace NameSet

theorem names_foldl_insert {xs : List Text} {s : NameSet}
    (h : (s.names ++ xs).Pairwise fun a b => before a b = true) :
    (xs.foldl insert s).names = s.names ++ xs := by
  induction xs generalizing s with
  | nil => exact (List.append_nil s.names).symm
  | cons x xs ih =>
    have hlast : ∀ y ∈ s.names, before y x = true := by
      intro y hy
      exact (List.pairwise_append.1 h).2.2 y hy x List.mem_cons_self
    have hnames : (s.insert x).names = s.names ++ [x] := Text.insertOrdered_eq_concat hlast
    have hsplit : s.names ++ x :: xs = (s.insert x).names ++ xs := by
      rw [hnames, List.append_assoc]
      rfl
    rw [List.foldl_cons, ih (hsplit ▸ h), hsplit]

/-- A set of names is the set of the names in it. -/
theorem ofList_names (s : NameSet) : ofList s.names = s := by
  have hnames : (ofList s.names).names = s.names := names_foldl_insert s.ordered
  cases hs : ofList s.names with
  | mk names ordered =>
    rw [hs] at hnames
    cases s
    cases hnames
    rfl

theorem mem_names_ofList {names : List Text} {name : Text} :
    name ∈ (ofList names).names ↔ name ∈ names := by
  have h := Module.contains_ofList names name
  rw [contains] at h
  simpa using congrArg (· = true) h

end NameSet

namespace Module

/-! ## Values that describe catalogs -/

/-- The value is a list of strings. -/
def IsTexts (j : Json) : Prop := ∃ items, j = .array items ∧ ∀ item ∈ items, ∃ t, item = .string t

/-- The members list the modules of a platform, and packages with their versions. -/
structure DescribeCatalog (members : List (Text × Json)) : Prop where
  names : ∃ value, Json.lookup (lit nativeMember) members = some value ∧ IsTexts value
  packages : ∃ packages, Json.lookup (lit packagesMember) members = some (.object packages) ∧
    ∀ p ∈ packages, IsTexts p.2

theorem isTexts_iff {j : Json} : IsTexts j ↔ ∃ ts, j = textsJson ts := by
  constructor
  · rintro ⟨items, rfl, h⟩
    induction items with
    | nil => exact ⟨[], rfl⟩
    | cons item items ih =>
      obtain ⟨t, rfl⟩ := h item List.mem_cons_self
      obtain ⟨ts, hts⟩ := ih fun x hx => h x (List.mem_cons_of_mem _ hx)
      have hitems : items = ts.map .string := Json.array.inj hts
      exact ⟨t :: ts, by rw [textsJson, List.map_cons, hitems]⟩
  · rintro ⟨ts, rfl⟩
    refine ⟨_, rfl, ?_⟩
    intro item hitem
    obtain ⟨t, -, rfl⟩ := List.mem_map.1 hitem
    exact ⟨t, rfl⟩

/-- Packages are listed by members whose values are lists of strings. -/
theorem exists_packageMembers {members : List (Text × Json)} :
    (∃ packages, members = packageMembers packages) ↔ ∀ p ∈ members, IsTexts p.2 := by
  constructor
  · rintro ⟨packages, rfl⟩ p hp
    obtain ⟨q, -, rfl⟩ := List.mem_map.1 hp
    exact isTexts_iff.2 ⟨q.2, rfl⟩
  · intro h
    induction members with
    | nil => exact ⟨[], rfl⟩
    | cons m members ih =>
      obtain ⟨name, value⟩ := m
      obtain ⟨versions, hversions⟩ := isTexts_iff.1 (h (name, value) List.mem_cons_self)
      obtain ⟨packages, rfl⟩ := ih fun p hp => h p (List.mem_cons_of_mem _ hp)
      have hvalue : value = textsJson versions := hversions
      exact ⟨(name, versions) :: packages, by rw [hvalue]; rfl⟩

/-- A value describes a catalog exactly if it is an object with a list of strings for the modules and
an object of lists of strings for the packages. -/
theorem exists_ofJson_iff {j : Json} :
    (∃ c, Catalog.ofJson j = .ok c) ↔ ∃ members, j = .object members ∧ DescribeCatalog members := by
  constructor
  · rintro ⟨c, hc⟩
    obtain ⟨names, packages, ⟨hnames, hpackages⟩, -⟩ := ofJson_eq_ok_iff.1 hc
    cases j with
    | object members =>
      exact ⟨members, rfl, ⟨_, hnames, isTexts_iff.2 ⟨names, rfl⟩⟩, _, hpackages,
        exists_packageMembers.1 ⟨packages, rfl⟩⟩
    | _ => cases hnames
  · rintro ⟨members, rfl, ⟨value, hvalue, htexts⟩, listed, hlisted, hall⟩
    obtain ⟨names, rfl⟩ := isTexts_iff.1 htexts
    obtain ⟨packages, rfl⟩ := exists_packageMembers.2 hall
    exact ⟨_, ofJson_eq_ok_iff.2 ⟨names, packages, ⟨hvalue, hlisted⟩, rfl⟩⟩

/-! ## Catalogs as values -/

theorem toJson_eq_listing (c : Catalog) : c.toJson = listing c.native.names c.packages := rfl

/-- What a catalog is written as is read as the same catalog. -/
theorem ofJson_toJson (c : Catalog) : Catalog.ofJson c.toJson = .ok c := by
  rw [toJson_eq_listing, ofJson_listing, NameSet.ofList_names]

/-- The value `k` is the normal form of `j`: it lists the modules that `j` lists, but sorted and each
once, and the same packages. -/
structure Normalizes (j k : Json) : Prop where
  names : ∃ items names, j.get? nativeMember = some (.array items) ∧
    k.get? nativeMember = some (textsJson names) ∧
    (names.Pairwise fun a b => before a b = true) ∧ ∀ name, name ∈ names ↔ .string name ∈ items
  packages : k.get? packagesMember = j.get? packagesMember
  /-- Nothing else is in it. -/
  members : ∃ names packages, k = .ofMembers [(nativeMember, names), (packagesMember, packages)]
  /-- Brought into normal form, it stays as it is. -/
  again : (Catalog.ofJson k).map Catalog.toJson = .ok k

theorem normalizes_of_ofJson {j : Json} {c : Catalog} (h : Catalog.ofJson j = .ok c) :
    Normalizes j c.toJson := by
  obtain ⟨names, packages, ⟨hnames, hpackages⟩, rfl⟩ := ofJson_eq_ok_iff.1 h
  have hlists := lists_listing (NameSet.ofList names).names packages
  constructor
  case names =>
    refine ⟨_, _, hnames, hlists.names, (NameSet.ofList names).ordered, ?_⟩
    intro name
    rw [NameSet.mem_names_ofList]
    simp
  case packages =>
    exact hlists.packages.trans hpackages.symm
  case members =>
    exact ⟨_, _, rfl⟩
  case again =>
    rw [ofJson_toJson]
    rfl

/-- A value describes a catalog exactly if it has the right shape, a catalog is restored from what it
is written as, and a value that is read and written again is in normal form. -/
theorem catalog_restored :
    (∀ j, (∃ c, Catalog.ofJson j = .ok c) ↔
      ∃ members, j = .object members ∧ DescribeCatalog members) ∧
    (∀ c : Catalog, Catalog.ofJson c.toJson = .ok c) ∧
    ∀ j c, Catalog.ofJson j = .ok c → Normalizes j c.toJson :=
  ⟨fun _ => exists_ofJson_iff, ofJson_toJson, fun _ _ => normalizes_of_ofJson⟩

/-- Modules out of order, one of them twice, and a package without versions before another one. -/
def unsortedListing : Json :=
  listing [lit "path", lit "fs", lit "path"] [(lit "q", []), (lit "async", [lit "2.0", lit "1.0"])]

/-- The modules are sorted, and the packages stay as they are. -/
theorem normalizes_unsortedListing :
    Normalizes unsortedListing
      (listing [lit "fs", lit "path"] [(lit "q", []), (lit "async", [lit "2.0", lit "1.0"])]) :=
  catalog_restored.2.2 unsortedListing _ (ofJson_listing _ _)

end Module

end ScriptDeps
