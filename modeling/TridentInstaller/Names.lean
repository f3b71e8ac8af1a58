import Mathlib.Computability.RegularExpressions
set_option autoImplicit false

/-!
# Name validation (`validateInstallationArguments`)

The namespace is checked against `dns1123LabelRegex`, the PVC and PV names against
`dns1123DomainRegex`, written here as Mathlib `RegularExpression`s term for term and
matched with `rmatch`.  Neither expression bounds the length.
-/

namespace TridentInstaller

open RegularExpression

/-- The characters from `lo` to `hi`, as a bracket range `[lo-hi]` lists them. -/
def charRange (lo hi : Char) : List Char :=
  (List.range (hi.toNat + 1 - lo.toNat)).map fun i => Char.ofNat (lo.toNat + i)

/-- A bracket expression: one character out of `cs`. -/
def charClass (cs : List Char) : RegularExpression Char :=
  cs.foldr (fun c r => char c + r) 0

/-- `[a-z0-9]` -/
def alnumChars : List Char := charRange 'a' 'z' ++ charRange '0' '9'

/-- `[-a-z0-9]` -/
def alnumDashChars : List Char := '-' :: charRange 'a' 'z' ++ charRange '0' '9'

/-- `[a-z0-9]([-a-z0-9]*[a-z0-9])?`, the body of `dns1123LabelRegex`. -/
def dns1123Label : RegularExpression Char :=
  charClass alnumChars * (1 + star (charClass alnumDashChars) * charClass alnumChars)

/-- `dns1123LabelRegex`. -/
def dns1123LabelRegex : RegularExpression Char := dns1123Label

/-- `dns1123DomainRegex`: a label, then any number of `\.`-prefixed labels. -/
def dns1123DomainRegex : RegularExpression Char :=
  dns1123Label * star (char '.' * dns1123Label)

/-- `regexp.MustCompile(pattern).MatchString(s)` for a pattern anchored by `^` and `$`. -/
def matchString (r : RegularExpression Char) (s : String) : Bool := r.rmatch s.toList

/-- `validateInstallationArguments`: the namespace must match the label pattern and the
PVC and PV names the subdomain pattern, checked in that order. -/
def validateInstallationArguments (tridentPodNamespace pvcName pvName : String) :
    Except String Unit :=
  let labelFormat := "a DNS-1123 label must consist of lower case alphanumeric characters or '-', " ++
    "and must start and end with an alphanumeric character"
  let subdomainFormat := "a DNS-1123 subdomain must consist of lower case alphanumeric characters, " ++
    "'-' or '.', and must start and end with an alphanumeric character"
  if !matchString dns1123LabelRegex tridentPodNamespace then
    .error ("'" ++ tridentPodNamespace ++ "' is not a valid namespace name; " ++ labelFormat)
  else if !matchString dns1123DomainRegex pvcName then
    .error ("'" ++ pvcName ++ "' is not a valid PVC name; " ++ subdomainFormat)
  else if !matchString dns1123DomainRegex pvName then
    .error ("'" ++ pvName ++ "' is not a valid PV name; " ++ subdomainFormat)
  else .ok ()

/-! ## The languages -/

/-- A character of `[a-z0-9]`. -/
def IsAlnum (c : Char) : Prop := c ∈ alnumChars

/-- A character of `[-a-z0-9]`. -/
def IsLabelChar (c : Char) : Prop := c ∈ alnumDashChars

/-- The strings the label pattern describes: nonempty, over `[-a-z0-9]`, starting and
ending in `[a-z0-9]`. -/
def LabelShaped (w : List Char) : Prop :=
  w ≠ [] ∧ (∀ c ∈ w, IsLabelChar c) ∧ (∀ c ∈ w.head?, IsAlnum c) ∧ ∀ c ∈ w.getLast?, IsAlnum c

/-- The strings the subdomain pattern describes: a label, then labels each preceded
by a dot. -/
def SubdomainShaped (w : List Char) : Prop :=
  ∃ (first : List Char) (rest : List (List Char)), w = first ++ (rest.map fun l => '.' :: l).flatten ∧ LabelShaped first ∧
    ∀ l ∈ rest, LabelShaped l

instance : DecidablePred IsAlnum := fun c => inferInstanceAs (Decidable (c ∈ alnumChars))

instance : DecidablePred IsLabelChar := fun c => inferInstanceAs (Decidable (c ∈ alnumDashChars))

instance (w : List Char) : Decidable (LabelShaped w) :=
  inferInstanceAs (Decidable (w ≠ [] ∧ (∀ c ∈ w, IsLabelChar c) ∧ (∀ c ∈ w.head?, IsAlnum c) ∧
    ∀ c ∈ w.getLast?, IsAlnum c))

theorem mem_charClass (cs : List Char) (w : List Char) :
    w ∈ (charClass cs).matches' ↔ ∃ c ∈ cs, w = [c] := by
  induction cs with
  | nil => simp [charClass, matches'_zero]
  | cons c cs ih =>
      simp only [charClass, List.foldr_cons] at ih ⊢
      rw [matches'_add, Language.mem_add, matches'_char, ih, Set.mem_singleton_iff]
      constructor
      · rintro (rfl | ⟨d, hd, rfl⟩)
        · exact ⟨c, List.mem_cons_self c cs, rfl⟩
        · exact ⟨d, List.mem_cons_of_mem c hd, rfl⟩
      · rintro ⟨d, hd, rfl⟩
        rcases List.mem_cons.mp hd with rfl | hd
        · exact Or.inl rfl
        · exact Or.inr ⟨d, hd, rfl⟩

theorem flatten_map_singleton (w : List Char) : (w.map fun c => [c]).flatten = w := by
  induction w with
  | nil => rfl
  | cons c w ih => rw [List.map_cons, List.flatten_cons, ih]; rfl

/-- A starred bracket expression matches exactly the strings over its characters. -/
theorem mem_star_charClass (cs : List Char) (w : List Char) :
    w ∈ (star (charClass cs)).matches' ↔ ∀ c ∈ w, c ∈ cs := by
  rw [matches'_star, Language.mem_kstar]
  constructor
  · rintro ⟨L, rfl, hL⟩ c hc
    obtain ⟨y, hy, hcy⟩ := List.mem_flatten.mp hc
    obtain ⟨d, hd, rfl⟩ := (mem_charClass cs y).mp (hL y hy)
    rw [List.mem_singleton.mp hcy]
    exact hd
  · intro hw
    refine ⟨w.map fun c => [c], (flatten_map_singleton w).symm, ?_⟩
    intro y hy
    obtain ⟨c, hc, rfl⟩ := List.mem_map.mp hy
    exact (mem_charClass cs _).mpr ⟨c, hw c hc, rfl⟩

theorem alnum_isLabelChar {c : Char} (h : c ∈ alnumChars) : IsLabelChar c :=
  List.mem_cons_of_mem _ h

/-- The label pattern's language is `LabelShaped`. -/
theorem mem_dns1123Label (w : List Char) : w ∈ dns1123Label.matches' ↔ LabelShaped w := by
  simp only [dns1123Label, matches'_mul, matches'_add, matches'_epsilon, Language.mem_mul,
    Language.mem_add, Language.mem_one, mem_charClass, mem_star_charClass]
  constructor
  · rintro ⟨_, ⟨c, hc, rfl⟩, rest, hrest, rfl⟩
    rcases hrest with rfl | ⟨u, hu, _, ⟨d, hd, rfl⟩, rfl⟩
    · exact ⟨by simp, by simpa using alnum_isLabelChar hc, by simpa using hc, by simpa using hc⟩
    · have hlast : (c :: (u ++ [d])).getLast? = some d := by
        rw [← List.cons_append, List.getLast?_concat]
      refine ⟨by simp, ?_, by simpa using hc, by simpa [hlast] using hd⟩
      intro x hx
      simp only [List.singleton_append, List.mem_cons, List.mem_append, List.not_mem_nil,
        or_false] at hx
      rcases hx with rfl | hx | rfl
      · exact alnum_isLabelChar hc
      · exact hu x hx
      · exact alnum_isLabelChar hd
  · rintro ⟨hne, hchars, hhead, hlast⟩
    obtain ⟨c, rest, rfl⟩ := List.exists_cons_of_ne_nil hne
    refine ⟨[c], ⟨c, hhead c (by simp), rfl⟩, rest, ?_, rfl⟩
    rcases List.eq_nil_or_concat rest with rfl | ⟨u, d, rfl⟩
    · exact Or.inl rfl
    · rw [List.concat_eq_append] at hchars hlast ⊢
      refine Or.inr ⟨u, fun x hx => hchars x (by simp [hx]), [d], ⟨d, hlast d ?_, rfl⟩, rfl⟩
      rw [← List.cons_append, List.getLast?_concat]
      rfl

/-- A dot-prefixed label, the starred group of the subdomain pattern. -/
theorem mem_dotLabel (w : List Char) :
    w ∈ (char '.' * dns1123Label).matches' ↔ ∃ l, w = '.' :: l ∧ LabelShaped l := by
  simp only [matches'_mul, matches'_char, Language.mem_mul, Set.mem_singleton_iff,
    mem_dns1123Label]
  constructor
  · rintro ⟨_, rfl, l, hl, rfl⟩
    exact ⟨l, rfl, hl⟩
  · rintro ⟨l, rfl, hl⟩
    exact ⟨['.'], rfl, l, hl, rfl⟩

/-- A concatenation of dot-prefixed labels, read back as the list of labels. -/
theorem exists_labels_of_dotLabels (L : List (List Char))
    (hL : ∀ y ∈ L, ∃ l, y = '.' :: l ∧ LabelShaped l) :
    ∃ rest : List (List Char), L.flatten = (rest.map fun l => '.' :: l).flatten ∧
      ∀ l ∈ rest, LabelShaped l := by
  induction L with
  | nil => exact ⟨[], rfl, by simp⟩
  | cons y L ih =>
      obtain ⟨l, rfl, hl⟩ := hL y (List.mem_cons_self _ _)
      obtain ⟨rest, hrest, hall⟩ := ih fun y hy => hL y (List.mem_cons_of_mem _ hy)
      refine ⟨l :: rest, by simp [hrest], ?_⟩
      intro l' hl'
      rcases List.mem_cons.mp hl' with rfl | hl'
      · exact hl
      · exact hall l' hl'

/-- The subdomain pattern's language is `SubdomainShaped`. -/
theorem mem_dns1123DomainRegex (w : List Char) :
    w ∈ dns1123DomainRegex.matches' ↔ SubdomainShaped w := by
  rw [dns1123DomainRegex, matches'_mul, Language.mem_mul]
  simp only [mem_dns1123Label, matches'_star, Language.mem_kstar]
  constructor
  · rintro ⟨first, hfirst, _, ⟨L, rfl, hL⟩, rfl⟩
    obtain ⟨rest, hrest, hall⟩ :=
      exists_labels_of_dotLabels L fun y hy => (mem_dotLabel y).mp (hL y hy)
    exact ⟨first, rest, by rw [hrest], hfirst, hall⟩
  · rintro ⟨first, rest, rfl, hfirst, hrest⟩
    refine ⟨first, hfirst, _, ⟨rest.map fun l => '.' :: l, rfl, ?_⟩, rfl⟩
    intro y hy
    obtain ⟨l, hl, rfl⟩ := List.mem_map.mp hy
    exact (mem_dotLabel _).mpr ⟨l, rfl, hrest l hl⟩

/-- `validateInstallationArguments` accepts exactly the names of the two shapes; no
length enters. -/
theorem validateInstallationArguments_ok_iff (ns pvcName pvName : String) :
    validateInstallationArguments ns pvcName pvName = .ok () ↔
      LabelShaped ns.toList ∧ SubdomainShaped pvcName.toList ∧ SubdomainShaped pvName.toList := by
  simp only [validateInstallationArguments, matchString, dns1123LabelRegex]
  rw [← mem_dns1123Label, ← mem_dns1123DomainRegex, ← mem_dns1123DomainRegex,
    ← rmatch_iff_matches', ← rmatch_iff_matches', ← rmatch_iff_matches']
  split_ifs with h₁ h₂ h₃ <;> simp_all

/-- `trident` is a one-label subdomain. -/
theorem subdomainShaped_trident : SubdomainShaped "trident".toList :=
  ⟨"trident".toList, [], by simp, by decide, by simp⟩

/-- The default names pass `validateInstallationArguments`. -/
theorem validateInstallationArguments_trident :
    validateInstallationArguments "trident" "trident" "trident" = .ok () :=
  (validateInstallationArguments_ok_iff _ _ _).mpr
    ⟨by decide, subdomainShaped_trident, subdomainShaped_trident⟩

/-- A DNS-1123 label as the API server takes it: the pattern's shape and 1 to 63
characters. -/
def IsDNS1123Label (s : String) : Prop := LabelShaped s.toList ∧ s.length ≤ 63

/-- A namespace of 64 characters passes `validateInstallationArguments`, although it
is one character past what a DNS-1123 label may have. -/
theorem validateInstallationArguments_accepts_64_char_namespace :
    validateInstallationArguments ⟨List.replicate 64 'a'⟩ "trident" "trident" = .ok () ∧
      ¬ IsDNS1123Label ⟨List.replicate 64 'a'⟩ := by
  refine ⟨(validateInstallationArguments_ok_iff _ _ _).mpr
    ⟨by decide, subdomainShaped_trident, subdomainShaped_trident⟩, ?_⟩
  rintro ⟨-, hlen⟩
  simp [String.length] at hlen

end TridentInstaller
