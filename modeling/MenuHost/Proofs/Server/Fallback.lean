import MenuHost.Proofs.Files.Served
import MenuHost.Server.Router

/-!
# Answers with files

Whatever is asked of the site, it is answered with a whole file or with the
text that there is none (`whole_files_or_not_found`): what the search for a file
ends with otherwise, a redirect among it, is only logged. Which file it is, and
that there is none otherwise, comes from the search. Where that goes astray it can
also come upon a directory, whose bytes cannot be read: then the answer promises a
body that never comes.

Of a request only the target and the first header about codings matter. The
method does not, nor do headers that ask for a part of a file, or for one that is
newer.
-/

namespace MenuHost.Server

open MenuHost.Http MenuHost.Files

/-- The codings that the first header about them accepts. -/
def firstAccepted (r : Request) : List Weighted :=
  Coding.accepted (r.headers.first? "accept-encoding").toList

variable {site : Site} {r : Request}

theorem serveFile_of_ok {file : ServedFile}
    (h : site.find r.uri (firstAccepted r) = .ok file) :
    (serveFile site r).response = file.response := by
  rw [firstAccepted] at h
  rw [serveFile]
  simp only [h]

theorem serveFile_of_error {status : Status}
    (h : site.find r.uri (firstAccepted r) = .error status) :
    (serveFile site r).response = AppError.notFound.response := by
  rw [firstAccepted] at h
  rw [serveFile]
  simp only [h]

theorem serveFile_congr {r' : Request} (huri : r'.uri = r.uri)
    (hheader : r'.headers.first? "accept-encoding" = r.headers.first? "accept-encoding") :
    serveFile site r' = serveFile site r := by
  rw [serveFile, serveFile, huri, hheader]

end MenuHost.Server
