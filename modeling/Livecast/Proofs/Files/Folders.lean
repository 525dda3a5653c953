import Livecast.Proofs.Files.Rewriting

/-!
# Making folders loses nothing

A folder is made only where nothing stands.  So whatever could be found before folders were made is
found afterwards, whether all of them could be made or not.

## Main Definitions

* `Volume.Keeps` - everything that stands in a volume stands in another one

## Main Statements

* `Volume.Keeps.readBytes` - what could be read can be read
* `Volume.keeps_makeParent` - making the folder of a path loses nothing
-/

namespace Livecast

namespace Volume

variable {u v w : Volume} {p : Path}

/-- Everything that stands in a volume stands in another one, and paths begin at the same place. -/
structure Keeps (v w : Volume) : Prop where
  /-- Paths begin at the same place. -/
  workingFolder : w.workingFolder = v.workingFolder
  /-- What stood at a place stands there. -/
  at? : ∀ {place : Place} {content : Content},
    v.at? place = some content → w.at? place = some content

namespace Keeps

theorem refl (v : Volume) : v.Keeps v := ⟨rfl, id⟩

theorem trans (h : u.Keeps v) (later : v.Keeps w) : u.Keeps w :=
  ⟨later.workingFolder.trans h.workingFolder, fun here => later.at? (h.at? here)⟩

/-- Something is put where nothing stood. -/
theorem put {place : Place} (free : v.at? place = none) (content : Content) :
    v.Keeps (v.put place content) where
  workingFolder := rfl
  at? := by
    intro other held here
    have differs : other ≠ place := by
      rintro rfl
      rw [free] at here
      cases here
    rw [at?_put_of_ne differs, here]

/-- What a path led to is what it leads to. -/
theorem find (h : v.Keeps w) {content : Content} (found : v.find p = .ok content) :
    w.find p = .ok content := by
  obtain ⟨⟨⟩, valid, found⟩ := bind_ok found
  obtain ⟨place, way, found⟩ := bind_ok found
  have same : w.origin p = v.origin p := by rw [origin, origin, h.workingFolder]
  have still := follow_mono (fun _ here => h.at? here) way
  split at found
  · cases found
  · next here =>
      obtain rfl := Except.ok.inj found
      simp only [Volume.find, valid, same, still, h.at? here, bind, Except.bind]
      rfl

/-- **What could be read can be read.** -/
theorem readBytes (h : v.Keeps w) {bytes : Bytes} (read : v.readBytes p = .ok bytes) :
    w.readBytes p = .ok bytes := by
  obtain ⟨content, found, read⟩ := bind_ok read
  rw [Volume.readBytes, h.find found]
  exact read

end Keeps

/-! ## Folders -/

theorem keeps_makeFolder (h : v.makeFolder p = .ok w) : v.Keeps w := by
  obtain ⟨target, -, made⟩ := bind_ok h
  match target with
  | none => cases made
  | some (place, slash) =>
      dsimp only at made
      split at made
      · cases made
      · next free =>
          obtain rfl := Except.ok.inj made
          exact .put free .folder

theorem keeps_ensureFolder (h : v.ensureFolder p = .ok w) : v.Keeps w := by
  rw [ensureFolder] at h
  split at h
  · next made =>
      obtain rfl := Except.ok.inj h
      exact keeps_makeFolder made
  · split at h
    · obtain rfl := Except.ok.inj h
      exact .refl v
    · cases h

/-- The folders that were made before a failure are in nobody's way either. -/
theorem keeps_makeFoldersUpTo (limit : Nat) (v : Volume) (p : Path) :
    v.Keeps (v.makeFoldersUpTo limit p).1 := by
  fun_induction makeFoldersUpTo limit v p with
  | case1 => exact .refl v
  | case2 _ _ _ _ made => exact keeps_ensureFolder made
  | case3 => exact .refl v
  | case4 _ _ _ _ _ _ _ _ outer kept =>
      rw [outer] at kept
      exact kept
  | case5 _ _ _ _ _ _ _ outer _ made kept =>
      rw [outer] at kept
      exact kept.trans (keeps_ensureFolder made)
  | case6 _ _ _ _ _ _ _ outer _ _ kept =>
      rw [outer] at kept
      exact kept
  | case7 => exact .refl v

theorem keeps_makeFolders (v : Volume) (p : Path) : v.Keeps (v.makeFolders p).1 :=
  keeps_makeFoldersUpTo p.text.length v p

/-- **Making the folder of a path loses nothing.** -/
theorem keeps_makeParent (v : Volume) (p : Path) : v.Keeps (v.makeParent p).1 := by
  rw [makeParent]
  split
  · exact .refl v
  · next folder _ =>
      have kept := v.keeps_makeFolders folder
      split
      · next same => rwa [same] at kept
      · next same => rwa [same] at kept

end Volume

end Livecast
