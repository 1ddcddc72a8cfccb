import SpiceDBOperator.Config.Accepted
import SpiceDBOperator.Config.Plain
import SpiceDBOperator.Updates.Rails

/-!
# The image override (`explodeImage`, file.go:210; `NewConfig`, config.go:283)

`spec.config.image` is taken apart by `explodeImage`, at the first `@` and then at the first `:`, and put together again
by `NewConfig`. A reference whose repository names a port has its first `:` inside the repository, so the parts are
others than those written. With a tag and no digest the two cuts cancel out; in every other case the reference is not
used as written (`image_used_iff`): a digest goes to the host, and a bare repository is taken for a host with a tag.
-/

namespace SpiceDBOperator

open Golang

/-- `repo[:tag][@digest]`. A `:` in the repository is that of a port, so it is not in the last part of the path. -/
structure ImageReference where
  repo : String
  tag : Option String := none
  digest : Option String := none
  repo_ne : repo ≠ ""
  repo_at : '@' ∉ repo.toList
  repo_port : ':' ∉ repo.toList.reverse.takeWhile (· ≠ '/')
  tag_ok : ∀ t ∈ tag, t ≠ "" ∧ '@' ∉ t.toList ∧ ':' ∉ t.toList ∧ '/' ∉ t.toList
  digest_ok : ∀ d ∈ digest, d ≠ "" ∧ '@' ∉ d.toList

namespace ImageReference

variable (r : ImageReference)

/-- The reference up to its digest. -/
def named : String :=
  match r.tag with
  | none => r.repo
  | some tag => r.repo ++ ":" ++ tag

def text : String :=
  match r.digest with
  | none => r.named
  | some digest => r.named ++ "@" ++ digest

/-- The override is used as written: a digest or a tag names the image, and a bare repository is the base image for
the state that comes from the update graph. -/
def UsedBy (lib : Libraries) (globalConfig : OperatorConfig) (cluster : SpiceDBCluster) (out : Config) : Prop :=
  match r.digest, r.tag with
  | some digest, _ => out.migration.targetSpiceDBImage = r.repo ++ "@" ++ digest
  | none, some _ => out.migration.targetSpiceDBImage = r.text
  | none, none =>
    ∃ target, globalConfig.targetOf lib cluster out.migration.datastoreEngine = .ok target ∧
      { target with baseImage := r.repo }.Stands out.migration.targetSpiceDBImage ∧
      out.migration.spiceDBVersion = target.target ∧ target.target ≠ none

/-! ## Taking the reference apart -/

variable {r}

theorem named_at : '@' ∉ r.named.toList := by
  unfold named
  cases htag : r.tag with
  | none => exact r.repo_at
  | some tag =>
    have hok := r.tag_ok tag htag
    simp [r.repo_at, hok.2.1]

theorem explodeImage_text (r : ImageReference) :
    explodeImage r.text = ((cut r.named ':').1, (cut r.named ':').2.1, r.digest.getD "") := by
  have htag : ∀ s : String, (if (cut s ':').2.2 then (cut s ':').2.1 else "") = (cut s ':').2.1 := by
    intro s
    unfold cut
    split <;> rfl
  unfold explodeImage text
  cases r.digest with
  | none => simp only [cut_of_notMem named_at, htag, Option.getD_none, Bool.false_eq_true, if_false]
  | some digest =>
    have hcut : cut (r.named ++ "@" ++ digest) '@' = (r.named, digest, true) := cut_append named_at digest
    simp only [hcut, htag, Option.getD_some, if_true]

/-- Without a port the two cuts find the parts. -/
theorem cut_named (hport : ':' ∉ r.repo.toList) : cut r.named ':' = (r.repo, r.tag.getD "", r.tag.isSome) := by
  unfold named
  cases r.tag with
  | none => exact cut_of_notMem hport
  | some tag => exact cut_append hport tag

theorem path_of_port {before after : List Char} (hrepo : r.repo.toList = before ++ ':' :: after) : '/' ∈ after := by
  by_contra hno
  have hlast : ∀ c ∈ after.reverse ++ [':'], decide (c ≠ '/') = true := by
    intro c hc
    apply decide_eq_true
    rintro rfl
    simp [hno] at hc
  apply r.repo_port
  have hreverse : r.repo.toList.reverse = (after.reverse ++ [':']) ++ before.reverse := by simp [hrepo]
  rw [hreverse, List.takeWhile_append_of_pos hlast]
  simp

/-- With one, the second cut is made there, and what follows is taken for a tag. -/
theorem cut_named_port (hport : ':' ∈ r.repo.toList) :
    ∃ host rest, cut r.named ':' = (host, rest, true) ∧ rest ≠ "" ∧ r.named = host ++ ":" ++ rest ∧ host ≠ r.repo := by
  obtain ⟨before, after, hrepo, hfirst⟩ := List.eq_append_cons_of_mem hport
  have hparts : r.repo = String.ofList before ++ ":" ++ String.ofList after := by
    apply String.toList_inj.1
    simp [hrepo]
  -- the port is before the tag, if there is one
  obtain ⟨more, hmore⟩ : ∃ more, r.named = r.repo ++ more := by
    unfold named
    cases r.tag with
    | none => exact ⟨"", String.append_empty.symm⟩
    | some tag => exact ⟨":" ++ tag, String.append_assoc⟩
  have hnamed : r.named = String.ofList before ++ ":" ++ (String.ofList after ++ more) := by
    rw [hmore, hparts]
    simp only [String.append_assoc]
  refine ⟨String.ofList before, String.ofList after ++ more, ?_, ?_, hnamed, ?_⟩
  · have hsep : ":" = String.singleton ':' := rfl
    rw [hnamed, hsep]
    exact cut_append (by simpa using hfirst) _
  · intro hempty
    have hslash := path_of_port hrepo
    have hnil := congrArg String.toList hempty
    simp only [String.toList_append, String.toList_ofList, String.toList_empty, List.append_eq_nil_iff] at hnil
    rw [hnil.1] at hslash
    cases hslash
  · intro hhost
    have hlength := congrArg (fun s : String => s.toList.length) (hhost.trans hparts)
    simp at hlength

end ImageReference

/-! ## Putting it together -/

section

variable {lib : Libraries} {cluster : SpiceDBCluster} {globalConfig : OperatorConfig} {out : Config}
  {r : ImageReference}

/-- An override that looks tagged to `explodeImage` settles the image and leaves no version. -/
theorem Accepted.tagged (h : Accepted lib cluster globalConfig out) {base tag digest : String}
    (hparts : explodeImage cluster.spec.imageSetting = (base, tag, digest)) (htagged : (tag, digest) ≠ ("", "")) :
    ({ baseImage := base, state := { tag, digest } } : Target).Stands out.migration.targetSpiceDBImage ∧
      out.migration.spiceDBVersion = none := by
  obtain ⟨target, hcall, -, hversion⟩ := h.target
  obtain ⟨target', hcall', himage⟩ := h.image
  have hknown : globalConfig.targetOf lib cluster out.migration.datastoreEngine =
      .ok { baseImage := base, state := { tag, digest } } := by
    have hsome : (explodeImage cluster.spec.imageSetting).2 ≠ ("", "") := by rwa [hparts]
    rw [OperatorConfig.targetOf, UpdateGraph.computeTarget_tagged hsome, hparts]
  obtain rfl := Except.ok.inj (hknown.symm.trans hcall)
  obtain rfl := Except.ok.inj (hknown.symm.trans hcall')
  exact ⟨himage, hversion⟩

theorem Target.Stands.digest {target : Target} {image : String} (h : target.Stands image)
    (hne : target.state.digest ≠ "") :
    image = target.baseImage ++ "@" ++ target.state.digest :=
  h.elim And.right fun htag => absurd htag.1 hne

theorem Target.Stands.tag {target : Target} {image : String} (h : target.Stands image)
    (hnil : target.state.digest = "") :
    image = target.baseImage ++ ":" ++ target.state.tag :=
  h.elim (fun hdigest => absurd hnil hdigest.1) fun htag => htag.2.2

/-- One that does not is the base image of a version of the graph. -/
theorem Accepted.untagged (h : Accepted lib cluster globalConfig out) {base : String}
    (hparts : explodeImage cluster.spec.imageSetting = (base, "", "")) (hbase : base ≠ "") :
    ∃ target, globalConfig.targetOf lib cluster out.migration.datastoreEngine = .ok target ∧
      { target with baseImage := base }.Stands out.migration.targetSpiceDBImage ∧
      out.migration.spiceDBVersion = target.target ∧ target.target ≠ none := by
  obtain ⟨target, hcall, herr, hversion⟩ := h.target
  obtain ⟨target', hcall', himage⟩ := h.image
  obtain rfl : target = target' := Except.ok.inj (hcall.symm.trans hcall')
  obtain ⟨baseImage, selected, m, hsel, hexit⟩ := UpdateGraph.computeTarget_exit (by rw [hparts]) hcall herr
  have hfirst : base = target.baseImage := by
    rw [hexit.baseImage_eq, ← hsel.base, hparts]
    simp [cmpOr, hbase]
  obtain ⟨t, ht⟩ := hexit.target_some
  refine ⟨target, hcall, ?_, hversion, by simp [ht]⟩
  rw [hfirst]
  exact himage

variable {secrets : GoMap Secret} {resolver : PatchMetaResolver} {warning : Option String}

/-- Without a port the reference is used as written. -/
theorem Accepted.used (h : Accepted lib cluster globalConfig out) (himage : cluster.spec.imageSetting = r.text)
    (hport : ':' ∉ r.repo.toList) : r.UsedBy lib globalConfig cluster out := by
  have hparts := r.explodeImage_text
  rw [← himage, ImageReference.cut_named hport] at hparts
  unfold ImageReference.UsedBy
  rcases hdigest : r.digest with _ | digest
  · rcases htag : r.tag with _ | tag
    · rw [hdigest, htag] at hparts
      exact h.untagged hparts r.repo_ne
    · have htag_ne := (r.tag_ok tag htag).1
      rw [hdigest, htag] at hparts
      have hstands := (h.tagged hparts (by simpa using htag_ne)).1
      simpa only [ImageReference.text, ImageReference.named, hdigest, htag, Option.getD_some] using hstands.tag rfl
  · have hdigest_ne := (r.digest_ok digest hdigest).1
    rw [hdigest] at hparts
    have hstands := (h.tagged hparts (by simp [hdigest_ne])).1
    exact hstands.digest hdigest_ne

/-- With one it is put together again from the wrong parts, which matters unless there is just a tag. -/
theorem Accepted.used_port (h : Accepted lib cluster globalConfig out) (himage : cluster.spec.imageSetting = r.text)
    (hport : ':' ∈ r.repo.toList) : r.UsedBy lib globalConfig cluster out ↔ r.tag ≠ none ∧ r.digest = none := by
  obtain ⟨host, rest, hcut, hrest, hnamed, hhost⟩ := ImageReference.cut_named_port hport
  have hparts := r.explodeImage_text
  rw [← himage, hcut] at hparts
  obtain ⟨hstands, hversion⟩ := h.tagged hparts fun hnil => hrest (Prod.ext_iff.1 hnil).1
  unfold ImageReference.UsedBy
  rcases hdigest : r.digest with _ | digest
  · rcases htag : r.tag with _ | tag
    · -- `rest` has been taken for a tag: there is no version
      refine iff_of_false ?_ (fun hno => hno.1 rfl)
      rintro ⟨target, -, -, hsame, hne⟩
      exact hne (hsame.symm.trans hversion)
    · refine iff_of_true ?_ ⟨Option.some_ne_none _, rfl⟩
      rw [hstands.tag (by rw [hdigest]; rfl)]
      simp only [ImageReference.text, hdigest, hnamed]
  · refine iff_of_false (fun hwritten => hhost ?_) (fun hno => Option.some_ne_none _ hno.2)
    have hdigest_ne := (r.digest_ok digest hdigest).1
    have hused := hstands.digest (by rwa [hdigest])
    rw [hdigest] at hused
    have hsame := congrArg String.toList (hused.symm.trans hwritten)
    simp only [String.toList_append, Option.getD_some, List.append_assoc] at hsame
    exact String.toList_inj.1 (List.append_cancel_right hsame)

/-- **The override is used as written** exactly if its repository names no port, or it has a tag and no digest. -/
theorem image_used_iff (hnew : newConfig lib cluster globalConfig secrets resolver = .ok (.ok out, warning))
    (r : ImageReference) (himage : cluster.spec.imageSetting = r.text) :
    r.UsedBy lib globalConfig cluster out ↔ ':' ∉ r.repo.toList ∨ r.tag ≠ none ∧ r.digest = none := by
  have haccepted := newConfig_accepted hnew
  by_cases hport : ':' ∈ r.repo.toList
  · rw [haccepted.used_port himage hport]
    exact (or_iff_right (not_not.2 hport)).symm
  · exact iff_of_true (haccepted.used himage hport) (Or.inl hport)

end

/-- The small cluster with an image override. -/
def overriddenCluster (image : String) : SpiceDBCluster :=
  { smallCluster "" with
    spec :=
      { (smallCluster "").spec with
        config := some (.ok (mapOf [("datastoreEngine", .string "postgres"), ("skipTLSWarning", .bool true),
          ("image", .string image)])) } }

def portAndDigest : ImageReference where
  repo := "registry:5000/spicedb"
  digest := some "sha256:e3b0"
  repo_ne := by decide
  repo_at := by decide
  repo_port := by decide
  tag_ok := by simp
  digest_ok := by
    rintro d ⟨⟩
    decide

/-- A digest on a registry with a port ends up on the host. -/
theorem portAndDigest_misread :
    (overriddenCluster portAndDigest.text).spec.imageSetting = portAndDigest.text ∧
      ∃ config warning, newConfig plain (overriddenCluster portAndDigest.text)
          { imageName := "spicedb", updateGraph := UpdateGraph.twoReleases } ∅ plainResolver =
            .ok (.ok config, warning) ∧
        config.migration.targetSpiceDBImage = "registry@sha256:e3b0" ∧
        ¬ portAndDigest.UsedBy plain { imageName := "spicedb", updateGraph := UpdateGraph.twoReleases }
          (overriddenCluster portAndDigest.text) config := by
  have hconfig : ∃ config warning, newConfig plain (overriddenCluster portAndDigest.text)
        { imageName := "spicedb", updateGraph := UpdateGraph.twoReleases } ∅ plainResolver = .ok (.ok config, warning) ∧
      config.migration.targetSpiceDBImage = "registry@sha256:e3b0" := exists_of_returnedConfig (by decide)
  obtain ⟨config, warning, hconfig, himage⟩ := hconfig
  refine ⟨by decide, config, warning, hconfig, himage, ?_⟩
  intro (hused : config.migration.targetSpiceDBImage = "registry:5000/spicedb" ++ "@" ++ "sha256:e3b0")
  rw [himage] at hused
  exact absurd hused (by decide)

def bareRepository : ImageReference where
  repo := "ghcr.io/authzed/spicedb"
  repo_ne := by decide
  repo_at := by decide
  repo_port := by decide
  tag_ok := by simp
  digest_ok := by simp

theorem bareRepository_used :
    ∃ config warning, newConfig plain (overriddenCluster bareRepository.text)
        { imageName := "spicedb", updateGraph := UpdateGraph.twoReleases } ∅ plainResolver = .ok (.ok config, warning) ∧
      config.migration.targetSpiceDBImage = "ghcr.io/authzed/spicedb:v2" ∧
      bareRepository.UsedBy plain { imageName := "spicedb", updateGraph := UpdateGraph.twoReleases }
        (overriddenCluster bareRepository.text) config := by
  have hconfig : ∃ config warning, newConfig plain (overriddenCluster bareRepository.text)
        { imageName := "spicedb", updateGraph := UpdateGraph.twoReleases } ∅ plainResolver = .ok (.ok config, warning) ∧
      config.migration.targetSpiceDBImage = "ghcr.io/authzed/spicedb:v2" := exists_of_returnedConfig (by decide)
  obtain ⟨config, warning, hconfig, himage⟩ := hconfig
  exact ⟨config, warning, hconfig, himage, (image_used_iff hconfig bareRepository (by decide)).2 (Or.inl (by decide))⟩

end SpiceDBOperator
