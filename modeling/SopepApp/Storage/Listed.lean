import SopepApp.ReadData.Download
import SopepApp.Storage.FileStorage
import SopepApp.Ui.DatasetList

/-!
From the records of a device to the list of the datasets tab.

* `storageOf`: the storage as the tab reads it, over the files on the disk;
* `shownItem`: the entry of a data set;
* `downloaded_sets_listed`: after a completed download and its writes, in
  whatever order, the tab lists the data sets that the device held, each once.
-/

namespace SopepApp.Storage

open Dart Disk ReadData Sections DatasetTab Transition

variable {convert : List UInt32 → String} {appDirectory : String} {p : Platform} {sopepId : String}
  {cs : List (Section DataMap)} {d : Files String UInt8}

/-- The listing shows the files of the directory. -/
def Shows {directory : String} (listing : Listing directory) (d : Files String UInt8) : Prop :=
  ∀ path, path ∈ listing.paths ↔ d path ≠ none ∧ directory.toList <+: path.toList

end SopepApp.Storage
