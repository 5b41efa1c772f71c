import Mathlib.Algebra.Order.Ring.Int
import Mathlib.Data.List.Basic

/-!
# Icons of other processes

An icon comes over the bus as images, each with a width, a height and the bytes of its pixels.
Nothing in the message relates the three. `dbusImageList2QIcon` makes a pixmap of each image that
Qt accepts by its width and height, and the pixmap reads four bytes for each pixel.
-/

namespace DdeTrayLoader.Tray

/-- The bytes that an array in a message has at most. -/
def maximumArrayLength : ℕ := 2 ^ 26

/-- An image as a message holds it. -/
structure ImageArgument where
  width : Int32
  height : Int32
  pixels : { bytes : List UInt8 // bytes.length ≤ maximumArrayLength }

/-- A `DBusImage`. -/
structure DBusImage where
  width : Int32
  height : Int32
  pixels : List UInt8
  deriving DecidableEq

namespace DBusImage

/-- `operator>>`. -/
def read (argument : ImageArgument) : DBusImage where
  width := argument.width
  height := argument.height
  pixels := argument.pixels

/-- The bytes that a pixmap of this size reads. -/
def bytes (image : DBusImage) : ℤ := 4 * image.width.toInt * image.height.toInt

/-- The image has a size, and bytes for every pixel. -/
def Fits (image : DBusImage) : Prop :=
  0 < image.width.toInt ∧ 0 < image.height.toInt ∧ image.bytes ≤ image.pixels.length

instance (image : DBusImage) : Decidable image.Fits :=
  inferInstanceAs (Decidable (_ ∧ _ ∧ _))

end DBusImage

/-- What Qt is built for: the order of the bytes in a word, and the sizes that `QImage` accepts;
it makes a null image of any other size. -/
structure QtBuild where
  littleEndian : Bool
  accepts : Int32 → Int32 → Bool
  accepts_pos : ∀ {width height}, accepts width height = true → 0 < width.toInt ∧ 0 < height.toInt
  accepts_of_small : ∀ {width height : Int32}, 0 < width.toInt → 0 < height.toInt →
    4 * width.toInt * height.toInt ≤ maximumArrayLength → accepts width height = true

/-- A `QImage` over bytes that it does not own. -/
structure QImage where
  bits : List UInt8
  width : Int32
  height : Int32
  deriving DecidableEq

/-- `QIcon`, by its pixmaps. -/
abbrev QIcon : Type := List QImage

/-- `QImage(data, width, height, Format_ARGB32)`. -/
def QtBuild.image (qt : QtBuild) (data : List UInt8) (width height : Int32) : Option QImage :=
  if qt.accepts width height then some ⟨data, width, height⟩ else none

/-- `QIcon::addPixmap`, which ignores a null pixmap. -/
def QIcon.addPixmap (icon : QIcon) (pixmap : Option QImage) : QIcon := icon ++ pixmap.toList

/-- `qFromBigEndian`, for each word of the bytes. -/
def fromBigEndian : List UInt8 → List UInt8
  | a :: b :: c :: d :: rest => d :: c :: b :: a :: fromBigEndian rest
  | rest => rest

/-- The bytes of an image in the order of this machine. -/
def QtBuild.convert (qt : QtBuild) (pixels : List UInt8) : List UInt8 :=
  if qt.littleEndian then fromBigEndian pixels else pixels

/-- The body of the loop in `dbusImageList2QIcon`. -/
def QtBuild.addImage (qt : QtBuild) (res : QIcon) (image : DBusImage) : QIcon :=
  res.addPixmap (qt.image (qt.convert image.pixels) image.width image.height)

/-- The list is empty, or its first image has no pixels. -/
def FirstEmpty : List DBusImage → Prop
  | [] => True
  | image :: _ => image.pixels = []

instance : DecidablePred FirstEmpty
  | [] => inferInstanceAs (Decidable True)
  | image :: _ => inferInstanceAs (Decidable (image.pixels = []))

def dbusImageList2QIcon (qt : QtBuild) (dbusImageList : List DBusImage) : QIcon :=
  if FirstEmpty dbusImageList then [] else dbusImageList.foldl qt.addImage []

/-! ## What is in the icon -/

@[simp] theorem fromBigEndian_length (bytes : List UInt8) :
    (fromBigEndian bytes).length = bytes.length := by
  induction bytes using fromBigEndian.induct with
  | case1 a b c d rest ih => simp only [fromBigEndian, List.length_cons, ih]
  | case2 rest hshort => rw [fromBigEndian.eq_2 rest hshort]

@[simp] theorem QtBuild.convert_length (qt : QtBuild) (pixels : List UInt8) :
    (qt.convert pixels).length = pixels.length := by
  unfold QtBuild.convert
  split_ifs
  · exact fromBigEndian_length pixels
  · rfl

/-- The pixmap of an image. -/
def QtBuild.pixmap (qt : QtBuild) (image : DBusImage) : QImage :=
  ⟨qt.convert image.pixels, image.width, image.height⟩

/-- Qt accepts the size of an image. -/
def QtBuild.Accepts (qt : QtBuild) (image : DBusImage) : Prop :=
  qt.accepts image.width image.height = true

instance (qt : QtBuild) : DecidablePred qt.Accepts :=
  fun image => inferInstanceAs (Decidable (qt.accepts image.width image.height = true))

/-- The loop makes a pixmap of each image that Qt accepts, in their order. -/
theorem QtBuild.foldl_addImage (qt : QtBuild) (images : List DBusImage) (res : QIcon) :
    images.foldl qt.addImage res = res ++ (images.filter qt.Accepts).map qt.pixmap := by
  induction images generalizing res with
  | nil => rw [List.foldl_nil, List.filter_nil, List.map_nil, List.append_nil]
  | cons image images ih =>
    rw [List.foldl_cons, ih]
    unfold QtBuild.addImage QtBuild.image QIcon.addPixmap
    split_ifs with haccepts
    · rw [List.filter_cons_of_pos (by rwa [decide_eq_true_eq]), List.map_cons, List.append_assoc]
      rfl
    · rw [List.filter_cons_of_neg (by rwa [decide_eq_true_eq]), Option.toList_none,
        List.append_nil]

/-- What the pixmap of an image reads lies inside its bytes. -/
def QImage.ReadsWithin (pixmap : QImage) : Prop :=
  0 < pixmap.width.toInt ∧ 0 < pixmap.height.toInt ∧
    4 * pixmap.width.toInt * pixmap.height.toInt ≤ pixmap.bits.length

theorem QtBuild.pixmap_readsWithin (qt : QtBuild) {image : DBusImage} :
    (qt.pixmap image).ReadsWithin ↔ image.Fits := by
  unfold QImage.ReadsWithin DBusImage.Fits QtBuild.pixmap
  rw [qt.convert_length]
  exact Iff.rfl

/-- Every byte that a pixel is read from is in the array. -/
theorem QImage.ReadsWithin.read_isSome {pixmap : QImage} (h : pixmap.ReadsWithin) {index : ℕ}
    (hindex : (index : ℤ) < 4 * pixmap.width.toInt * pixmap.height.toInt) :
    pixmap.bits[index]?.isSome := by
  have hlt : index < pixmap.bits.length := by
    have hbits := h.2.2
    omega
  rw [List.getElem?_eq_getElem hlt]
  rfl

/-- The icon has the pixmaps of the images that fit and no other, and so reads no byte that was
not received. -/
structure UsesFitting (qt : QtBuild) (images : List DBusImage) : Prop where
  within : ∀ pixmap ∈ dbusImageList2QIcon qt images, pixmap.ReadsWithin
  used : dbusImageList2QIcon qt images = (images.filter DBusImage.Fits).map qt.pixmap

/-- Either the first image has pixels and every image of an acceptable size fits, or it has none
and no image fits. -/
def SizesHonest (qt : QtBuild) (images : List DBusImage) : Prop :=
  if FirstEmpty images then ∀ image ∈ images, ¬image.Fits
  else ∀ image ∈ images, qt.Accepts image → image.Fits

/-- A message is too short for an image that fits and that Qt refuses. -/
theorem QtBuild.accepts_of_fits (qt : QtBuild) (argument : ImageArgument)
    (h : (DBusImage.read argument).Fits) : qt.Accepts (DBusImage.read argument) := by
  obtain ⟨hwidth, hheight, hbytes⟩ := h
  have hlength : ((DBusImage.read argument).pixels.length : ℤ) ≤ maximumArrayLength :=
    Int.ofNat_le.mpr argument.pixels.property
  exact qt.accepts_of_small hwidth hheight (hbytes.trans hlength)

/-- An icon from the bus uses the images that fit, and them alone, exactly if the sizes are
honest. -/
theorem usesFitting_iff (qt : QtBuild) (arguments : List ImageArgument) :
    UsesFitting qt (arguments.map DBusImage.read) ↔
      SizesHonest qt (arguments.map DBusImage.read) := by
  have hfits : ∀ image ∈ arguments.map DBusImage.read, image.Fits → qt.Accepts image := by
    intro image himage
    obtain ⟨argument, -, rfl⟩ := List.mem_map.mp himage
    exact qt.accepts_of_fits argument
  generalize arguments.map DBusImage.read = images at hfits ⊢
  unfold SizesHonest
  split_ifs with hempty
  · have hicon : dbusImageList2QIcon qt images = [] := if_pos hempty
    constructor
    · intro huses image himage hfit
      have hnone := huses.used
      rw [hicon, eq_comm, List.map_eq_nil_iff, List.filter_eq_nil_iff] at hnone
      exact hnone image himage (decide_eq_true hfit)
    · intro hnone
      have hfilter : images.filter DBusImage.Fits = [] := by
        rw [List.filter_eq_nil_iff]
        intro image himage
        simpa using hnone image himage
      refine ⟨?_, ?_⟩
      · rw [hicon]
        intro pixmap hpixmap
        cases hpixmap
      · rw [hicon, hfilter, List.map_nil]
  · have hicon : dbusImageList2QIcon qt images = (images.filter qt.Accepts).map qt.pixmap := by
      unfold dbusImageList2QIcon
      rw [if_neg hempty, qt.foldl_addImage, List.nil_append]
    constructor
    · intro huses image himage haccepts
      rw [← qt.pixmap_readsWithin]
      apply huses.within
      rw [hicon]
      exact List.mem_map_of_mem (List.mem_filter.mpr ⟨himage, decide_eq_true haccepts⟩)
    · intro hall
      have hfilter : images.filter qt.Accepts = images.filter DBusImage.Fits := by
        apply List.filter_congr
        intro image himage
        rw [decide_eq_decide]
        exact ⟨hall image himage, hfits image himage⟩
      rw [hfilter] at hicon
      refine ⟨?_, hicon⟩
      rw [hicon]
      intro pixmap hpixmap
      obtain ⟨image, himage, rfl⟩ := List.mem_map.mp hpixmap
      have hfit := (List.mem_filter.mp himage).2
      exact qt.pixmap_readsWithin.mpr (of_decide_eq_true hfit)

/-- An image that claims to be two by two and has one pixel. -/
theorem short_image_read : ¬∀ (qt : QtBuild) (arguments : List ImageArgument),
    UsesFitting qt (arguments.map DBusImage.read) := by
  intro hall
  have hqt : ∀ qt : QtBuild, False := by
    intro qt
    have hhonest := (usesFitting_iff qt _).mp
      (hall qt [⟨2, 2, ⟨[255, 0, 0, 0], by decide⟩⟩])
    have haccepts : qt.accepts 2 2 = true :=
      qt.accepts_of_small (by decide) (by decide) (by decide)
    have hfit := hhonest _ (List.mem_singleton_self _) haccepts
    exact absurd hfit (by decide)
  exact hqt
    { littleEndian := true
      accepts := fun width height => decide (0 < width.toInt ∧ 0 < height.toInt)
      accepts_pos := of_decide_eq_true
      accepts_of_small := fun hwidth hheight _ => decide_eq_true ⟨hwidth, hheight⟩ }

end DdeTrayLoader.Tray
