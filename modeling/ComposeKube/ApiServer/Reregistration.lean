import ComposeKube.ApiServer.Registration

/-!
# Registering one bundle twice

An API server that is restarted registers the bundle that it has registered before. The
merge replaces the certificate of the bundle by itself and keeps the others, so that the
second registration should change nothing.

A bundle of several certificates is refused where it is merged into a bundle that
parses, but taken over as it is where there is nothing to merge with: the two early
returns of `mergeCABundle` come before the check. The next registration of such a bundle
meets the bundle itself, which parses, and fails.

* `mergeCABundle_again` — one certificate: the second merge gives the same bytes.
* `not_mergeCABundle_again` — several certificates, taken over as they are.
* `mergeCABundle_idempotent_iff` — all bundles.
-/

namespace ComposeKube

open Go

namespace Pem

variable {Cert : Type} {pem : Pem Cert} {existingPEM newBundlePEM : Bytes}

/-- What registering the same bundle again should give: `r` is the result of the first
merge. -/
structure MergesOnce (pem : Pem Cert) (existingPEM newBundlePEM : Bytes) (newBundle : List Cert)
    (r : Bytes) : Prop where
  /-- The second merge succeeds, with the certificates of the first. -/
  again : ∃ r' certs, pem.mergeCABundle r newBundlePEM = .ok r' ∧
    pem.parseCertsPEM r = .ok certs ∧ pem.parseCertsPEM r' = .ok certs
  /-- The certificates of others are kept, in their order. -/
  kept : ∀ existing, pem.parseCertsPEM existingPEM = .ok existing →
    ∃ certs, pem.parseCertsPEM r = .ok certs ∧
      (existing.filter fun c => pem.commonName c ∉ newBundle.map pem.commonName).Sublist certs

/-! ## The three outcomes of a merge -/

theorem mergeCABundle_of_unparsable
    (hexisting : ¬ ∃ existing, pem.parseCertsPEM existingPEM = .ok existing) :
    pem.mergeCABundle existingPEM newBundlePEM = .ok newBundlePEM := by
  unfold mergeCABundle
  split
  · rfl
  · cases hparse : pem.parseCertsPEM existingPEM with
    | error err => rfl
    | ok existing => exact absurd ⟨existing, hparse⟩ hexisting

theorem mergeCABundle_of_many {existing newBundle : List Cert}
    (hexisting : pem.parseCertsPEM existingPEM = .ok existing)
    (hnew : pem.parseCertsPEM newBundlePEM = .ok newBundle) (hmany : newBundle.length ≠ 1) :
    pem.mergeCABundle existingPEM newBundlePEM =
      .error "bundle has an unexpected number of certificates in it" := by
  unfold mergeCABundle
  rw [if_neg (length_ne_zero_of_parse hexisting), hexisting]
  simp only [hnew, ok_bind]
  split
  · exact absurd rfl hmany
  · rfl

/-! ## The second merge -/

/-- A merged certificate is merged again without a change. -/
theorem mergeCABundle_again (hpem : pem.Concatenates) {cert : Cert} {r : Bytes}
    (hnew : pem.parseCertsPEM newBundlePEM = .ok [cert])
    (h : pem.mergeCABundle existingPEM newBundlePEM = .ok r) :
    pem.mergeCABundle r newBundlePEM = .ok r := by
  by_cases hexisting : ∃ existing, pem.parseCertsPEM existingPEM = .ok existing
  · obtain ⟨existing, hexisting⟩ := hexisting
    have hparse := parse_mergeCABundle hpem hexisting hnew h
    -- the certificates of others pass the filter once more, the new one does not
    rw [mergeCABundle_of_one hparse hnew, List.filter_append, List.filter_filter, ← h,
      mergeCABundle_of_one hexisting hnew]
    simp
  · rw [mergeCABundle_of_unparsable hexisting] at h
    obtain rfl := Except.ok.inj h
    rw [mergeCABundle_of_one hnew hnew]
    simp

/-- Several certificates that are taken over as they are cannot be merged again. -/
theorem not_mergeCABundle_again {newBundle : List Cert}
    (hexisting : ¬ ∃ existing, pem.parseCertsPEM existingPEM = .ok existing)
    (hnew : pem.parseCertsPEM newBundlePEM = .ok newBundle) (hmany : newBundle.length ≠ 1) :
    ∃ r, pem.mergeCABundle existingPEM newBundlePEM = .ok r ∧
      ∀ r', pem.mergeCABundle r newBundlePEM ≠ .ok r' := by
  refine ⟨newBundlePEM, mergeCABundle_of_unparsable hexisting, fun r' => ?_⟩
  rw [mergeCABundle_of_many hnew hnew hmany]
  nofun

theorem mergesOnce_of_one (hpem : pem.Concatenates) {cert : Cert} {r : Bytes}
    (hnew : pem.parseCertsPEM newBundlePEM = .ok [cert])
    (h : pem.mergeCABundle existingPEM newBundlePEM = .ok r) :
    pem.MergesOnce existingPEM newBundlePEM [cert] r := by
  have hagain := mergeCABundle_again hpem hnew h
  by_cases hexisting : ∃ existing, pem.parseCertsPEM existingPEM = .ok existing
  · obtain ⟨existing, hexisting⟩ := hexisting
    have hparse := parse_mergeCABundle hpem hexisting hnew h
    refine ⟨⟨r, _, hagain, hparse, hparse⟩, ?_⟩
    intro existing' hexisting'
    obtain rfl := Except.ok.inj (hexisting.symm.trans hexisting')
    refine ⟨_, hparse, ?_⟩
    simp only [List.map_cons, List.map_nil, List.mem_singleton]
    exact List.sublist_append_left _ _
  · have hr : r = newBundlePEM :=
      (Except.ok.inj (mergeCABundle_of_unparsable hexisting ▸ h)).symm
    have hparse : pem.parseCertsPEM r = .ok [cert] := hr ▸ hnew
    exact ⟨⟨r, _, hagain, hparse, hparse⟩, fun existing h' => absurd ⟨existing, h'⟩ hexisting⟩

/-- **Registering the same bundle again changes nothing, exactly when the bundle is one
certificate or there is a bundle to merge it with**: the check that refuses several
certificates is made only then. -/
theorem mergeCABundle_idempotent_iff (hpem : pem.Concatenates) {newBundle : List Cert}
    (hnew : pem.parseCertsPEM newBundlePEM = .ok newBundle) :
    (∀ r, pem.mergeCABundle existingPEM newBundlePEM = .ok r →
        pem.MergesOnce existingPEM newBundlePEM newBundle r) ↔
      newBundle.length = 1 ∨ ∃ existing, pem.parseCertsPEM existingPEM = .ok existing := by
  constructor
  · intro h
    by_contra hcond
    rw [not_or] at hcond
    obtain ⟨r, hr, hfails⟩ := not_mergeCABundle_again hcond.2 hnew hcond.1
    obtain ⟨r', -, hr', -⟩ := (h r hr).again
    exact hfails r' hr'
  · intro hcond r hr
    by_cases hone : newBundle.length = 1
    · obtain ⟨cert, rfl⟩ := List.length_eq_one_iff.mp hone
      exact mergesOnce_of_one hpem hnew hr
    · -- the first merge fails
      obtain ⟨existing, hexisting⟩ := hcond.resolve_left hone
      rw [mergeCABundle_of_many hexisting hnew hone] at hr
      cases hr

end Pem

/-- A server comes back to a bundle of two certificates with its own one. -/
theorem mergeCABundle_idempotent_twoServers :
    ∃ r, bytePem.mergeCABundle [1, 200] [200] = .ok r ∧
      bytePem.MergesOnce [1, 200] [200] [200] r := by
  have hexisting : bytePem.parseCertsPEM [1, 200] = .ok [1, 200] :=
    parseCertsPEM_bytePem (by decide)
  have hnew : bytePem.parseCertsPEM [200] = .ok [200] := parseCertsPEM_bytePem (by decide)
  have hmerge := Pem.mergeCABundle_of_one hexisting hnew
  refine ⟨_, hmerge, ?_⟩
  exact (Pem.mergeCABundle_idempotent_iff bytePem_concatenates hnew).mpr (Or.inl rfl) _ hmerge

/-- **A bundle of two certificates is registered once and then refused.** -/
theorem mergeCABundle_twoCertificates :
    bytePem.parseCertsPEM [1, 2] = .ok [1, 2] ∧
      bytePem.mergeCABundle [] [1, 2] = .ok [1, 2] ∧
      bytePem.mergeCABundle [1, 2] [1, 2] =
        .error "bundle has an unexpected number of certificates in it" ∧
      ¬ ∀ r, bytePem.mergeCABundle [] [1, 2] = .ok r →
        bytePem.MergesOnce [] [1, 2] [1, 2] r := by
  have hparse : bytePem.parseCertsPEM [1, 2] = .ok [1, 2] := parseCertsPEM_bytePem (by decide)
  have hagain := Pem.mergeCABundle_of_many hparse hparse (by decide)
  refine ⟨hparse, rfl, hagain, fun h => ?_⟩
  obtain ⟨r', -, hr', -⟩ := (h [1, 2] rfl).again
  rw [hagain] at hr'
  cases hr'

end ComposeKube
