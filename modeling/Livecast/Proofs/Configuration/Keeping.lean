import Livecast.Proofs.Configuration.Settings
import Livecast.Proofs.Files.Folders

/-!
# The file of a configuration

A configuration is loaded from whatever document is in its file, and what was saved is what is
loaded.  A configuration that no document can hold is refused before its file is touched; only the
folder of the file may have been made by then.

## Main Definitions

* `Configuration.Saved` - what a saving has done

## Main Statements

* `Configuration.saved_save` - a saving keeps the configuration, or spares what was there
* `Configuration.load_and_save` - the law of the file: what a file gives, and what a saving has done
-/

namespace Livecast.Configuration

variable {v w : Volume} {path : Path} {c : Configuration}

/-- What a saving has done. -/
inductive Saved (v : Volume) (path : Path) (c : Configuration) :
    Volume × Except ConfigurationError Unit → Prop
  /-- The configuration can be loaded. -/
  | kept {w : Volume} (loads : load w path = .ok c) : Saved v path c (w, .ok ())
  /-- No document can hold the configuration, and a file that was there has what it had. -/
  | refused {w : Volume} (large : ¬ ∀ s : Setting, s.Fits c)
      (spares : ∀ bytes, v.readBytes path = .ok bytes → w.readBytes path = .ok bytes) :
      Saved v path c (w, .error .unwritable)
  /-- The folder or the file could not be accessed. -/
  | failed {w : Volume} {place : Path} {cause : FileError} :
      Saved v path c (w, .error (.inaccessible place cause))

/-- What is loaded from a file whose text is a document. -/
theorem load_eq_ok {s : String} (text : v.readText path = .ok s) (read : ofToml? s = some c) :
    load v path = .ok c := by
  rw [load, text]
  dsimp only
  rw [read]

/-- **A saving keeps the configuration**, or it fails, and then it has spared the file if the
configuration is why it has failed. -/
theorem saved_save (v : Volume) (path : Path) (c : Configuration) :
    Saved v path c (save v path c) := by
  have folder := v.keeps_makeParent path
  rw [save]
  split
  · exact .failed
  · next made =>
      rw [made] at folder
      split
      · next unheld =>
          have large : c.fits = false := by simpa [toml?] using unheld
          refine .refused (fun all => ?_) fun bytes read => folder.readBytes read
          rw [fits_iff.mpr all] at large
          cases large
      · next s document =>
          split
          · next written =>
              exact .kept (load_eq_ok (Volume.readText_write written) (ofToml?_toml document))
          · exact .failed

/-- **The law of the file.**  A file that gives some settings is loaded as the standard
configuration with these settings; every layout of some settings is such a file; and a saving keeps
the configuration or spares what was there. -/
theorem load_and_save :
    (∀ (given : Setting → Bool) (c : Configuration) (v : Volume) (path : Path) (s : String),
      v.readText path = .ok s → Describes given c s → load v path = .ok (overlay given c)) ∧
    (∀ (given : Setting → Bool) (c : Configuration) (layout : Layout), layout.Of given →
      (∀ s, given s = true → s.Fits c) → Describes given c (layout.text c)) ∧
    ∀ (v : Volume) (path : Path) (c : Configuration), Saved v path c (save v path c) :=
  ⟨fun _ _ _ _ _ text describes => load_eq_ok text describes.ofToml?_eq,
    fun _ _ _ arranged fits => arranged.describes fits, saved_save⟩

/-- A file with some text in the working folder. -/
def volumeOf (s : String) : Volume := ⟨[(["config.toml"], .file (.ofText s))], []⟩

theorem readText_volumeOf (s : String) : (volumeOf s).readText fileName = .ok s :=
  Volume.readText_of_readBytes (by rfl)

/-- The standard configuration, except that received media are kept. -/
def retaining : Configuration := { standard with session := { SessionSection.standard with
  retain := true } }

/-- A section without any setting stands in front of the one that has a setting. -/
theorem load_and_save_retaining :
    load (volumeOf (Layout.text [("logging", []), ("session", [.retain])] retaining)) fileName =
      .ok retaining := by
  have arranged : Layout.Of [("logging", []), ("session", [.retain])] (· = .retain) :=
    { distinct := by decide
      known := by simp
      own := by simp [Setting.table]
      once := by simp
      exact := by simp }
  have fits : ∀ s : Setting, decide (s = .retain) = true → s.Fits retaining := by
    intro s given
    obtain rfl := of_decide_eq_true given
    exact trivial
  exact load_and_save.1 _ retaining _ fileName _ (readText_volumeOf _)
    (load_and_save.2.1 _ retaining _ arranged fits)

end Livecast.Configuration
