import Analytics.Zone.Era
import Analytics.Zone.Season.NorthAmerica
import Analytics.Zone.Season.Oceania
import Analytics.Zone.Season.SouthAmerica

/-!
Histories of the zones named Pacific.
-/

namespace Analytics.Zone.Region.Pacific

def apia : List Era :=
  [ ⟨45184, .fixed 0, some ⟨1892, 7, .on 5, 0, .wall⟩⟩,
    ⟨-41216, .fixed 0, some ⟨1911, 1, .on 1, 0, .wall⟩⟩,
    ⟨-41400, .fixed 0, some ⟨1950, 1, .on 1, 0, .wall⟩⟩,
    ⟨-39600, .rules Season.samoa, some ⟨2011, 12, .on 29, 86400, .wall⟩⟩,
    ⟨46800, .rules Season.samoa, none⟩]

def auckland : List Era :=
  [ ⟨41944, .fixed 0, some ⟨1868, 11, .on 2, 0, .wall⟩⟩,
    ⟨41400, .rules Season.newZealand, some ⟨1946, 1, .on 1, 0, .wall⟩⟩,
    ⟨43200, .rules Season.newZealand, none⟩]

def bougainville : List Era :=
  [ ⟨37336, .fixed 0, some ⟨1880, 1, .on 1, 0, .wall⟩⟩,
    ⟨35312, .fixed 0, some ⟨1895, 1, .on 1, 0, .wall⟩⟩,
    ⟨36000, .fixed 0, some ⟨1942, 7, .on 1, 0, .wall⟩⟩,
    ⟨32400, .fixed 0, some ⟨1945, 8, .on 21, 0, .wall⟩⟩,
    ⟨36000, .fixed 0, some ⟨2014, 12, .on 28, 7200, .wall⟩⟩,
    ⟨39600, .fixed 0, none⟩]

def chatham : List Era :=
  [ ⟨44028, .fixed 0, some ⟨1868, 11, .on 2, 0, .wall⟩⟩,
    ⟨44100, .fixed 0, some ⟨1946, 1, .on 1, 0, .wall⟩⟩,
    ⟨45900, .rules Season.chatham, none⟩]

def easter : List Era :=
  [ ⟨-26248, .fixed 0, some ⟨1890, 1, .on 1, 0, .wall⟩⟩,
    ⟨-26248, .fixed 0, some ⟨1932, 9, .on 1, 0, .wall⟩⟩,
    ⟨-25200, .rules Season.chile, some ⟨1982, 3, .on 14, 10800, .universal⟩⟩,
    ⟨-21600, .rules Season.chile, none⟩]

def efate : List Era :=
  [ ⟨40396, .fixed 0, some ⟨1912, 1, .on 13, 0, .wall⟩⟩,
    ⟨39600, .rules Season.vanuatu, none⟩]

def fakaofo : List Era :=
  [ ⟨-41096, .fixed 0, some ⟨1901, 1, .on 1, 0, .wall⟩⟩,
    ⟨-39600, .fixed 0, some ⟨2011, 12, .on 30, 0, .wall⟩⟩,
    ⟨46800, .fixed 0, none⟩]

def fiji : List Era :=
  [ ⟨42944, .fixed 0, some ⟨1915, 10, .on 26, 0, .wall⟩⟩,
    ⟨43200, .rules Season.fiji, none⟩]

def galapagos : List Era :=
  [ ⟨-21504, .fixed 0, some ⟨1931, 1, .on 1, 0, .wall⟩⟩,
    ⟨-18000, .fixed 0, some ⟨1986, 1, .on 1, 0, .wall⟩⟩,
    ⟨-21600, .rules Season.ecuador, none⟩]

def gambier : List Era :=
  [ ⟨-32388, .fixed 0, some ⟨1912, 10, .on 1, 0, .wall⟩⟩,
    ⟨-32400, .fixed 0, none⟩]

def guadalcanal : List Era :=
  [ ⟨38388, .fixed 0, some ⟨1912, 10, .on 1, 0, .wall⟩⟩,
    ⟨39600, .fixed 0, none⟩]

def guam : List Era :=
  [ ⟨-51660, .fixed 0, some ⟨1844, 12, .on 31, 0, .wall⟩⟩,
    ⟨34740, .fixed 0, some ⟨1901, 1, .on 1, 0, .wall⟩⟩,
    ⟨36000, .fixed 0, some ⟨1941, 12, .on 10, 0, .wall⟩⟩,
    ⟨32400, .fixed 0, some ⟨1944, 7, .on 31, 0, .wall⟩⟩,
    ⟨36000, .rules Season.guam, some ⟨2000, 12, .on 23, 0, .wall⟩⟩,
    ⟨36000, .fixed 0, none⟩]

def honolulu : List Era :=
  [ ⟨-37886, .fixed 0, some ⟨1896, 1, .on 13, 43200, .wall⟩⟩,
    ⟨-37800, .fixed 0, some ⟨1933, 4, .on 30, 7200, .wall⟩⟩,
    ⟨-37800, .fixed 3600, some ⟨1933, 5, .on 21, 43200, .wall⟩⟩,
    ⟨-37800, .rules Season.unitedStates, some ⟨1947, 6, .on 8, 7200, .wall⟩⟩,
    ⟨-36000, .fixed 0, none⟩]

def kanton : List Era :=
  [ ⟨0, .fixed 0, some ⟨1937, 8, .on 31, 0, .wall⟩⟩,
    ⟨-43200, .fixed 0, some ⟨1979, 10, .on 1, 0, .wall⟩⟩,
    ⟨-39600, .fixed 0, some ⟨1994, 12, .on 31, 0, .wall⟩⟩,
    ⟨46800, .fixed 0, none⟩]

def kiritimati : List Era :=
  [ ⟨-37760, .fixed 0, some ⟨1901, 1, .on 1, 0, .wall⟩⟩,
    ⟨-38400, .fixed 0, some ⟨1979, 10, .on 1, 0, .wall⟩⟩,
    ⟨-36000, .fixed 0, some ⟨1994, 12, .on 31, 0, .wall⟩⟩,
    ⟨50400, .fixed 0, none⟩]

def kosrae : List Era :=
  [ ⟨-47284, .fixed 0, some ⟨1844, 12, .on 31, 0, .wall⟩⟩,
    ⟨39116, .fixed 0, some ⟨1901, 1, .on 1, 0, .wall⟩⟩,
    ⟨39600, .fixed 0, some ⟨1914, 10, .on 1, 0, .wall⟩⟩,
    ⟨32400, .fixed 0, some ⟨1919, 2, .on 1, 0, .wall⟩⟩,
    ⟨39600, .fixed 0, some ⟨1937, 1, .on 1, 0, .wall⟩⟩,
    ⟨36000, .fixed 0, some ⟨1941, 4, .on 1, 0, .wall⟩⟩,
    ⟨32400, .fixed 0, some ⟨1945, 8, .on 1, 0, .wall⟩⟩,
    ⟨39600, .fixed 0, some ⟨1969, 10, .on 1, 0, .wall⟩⟩,
    ⟨43200, .fixed 0, some ⟨1999, 1, .on 1, 0, .wall⟩⟩,
    ⟨39600, .fixed 0, none⟩]

def kwajalein : List Era :=
  [ ⟨40160, .fixed 0, some ⟨1901, 1, .on 1, 0, .wall⟩⟩,
    ⟨39600, .fixed 0, some ⟨1937, 1, .on 1, 0, .wall⟩⟩,
    ⟨36000, .fixed 0, some ⟨1941, 4, .on 1, 0, .wall⟩⟩,
    ⟨32400, .fixed 0, some ⟨1944, 2, .on 6, 0, .wall⟩⟩,
    ⟨39600, .fixed 0, some ⟨1969, 10, .on 1, 0, .wall⟩⟩,
    ⟨-43200, .fixed 0, some ⟨1993, 8, .on 20, 86400, .wall⟩⟩,
    ⟨43200, .fixed 0, none⟩]

def marquesas : List Era :=
  [ ⟨-33480, .fixed 0, some ⟨1912, 10, .on 1, 0, .wall⟩⟩,
    ⟨-34200, .fixed 0, none⟩]

def nauru : List Era :=
  [ ⟨40060, .fixed 0, some ⟨1921, 1, .on 15, 0, .wall⟩⟩,
    ⟨41400, .fixed 0, some ⟨1942, 8, .on 29, 0, .wall⟩⟩,
    ⟨32400, .fixed 0, some ⟨1945, 9, .on 8, 0, .wall⟩⟩,
    ⟨41400, .fixed 0, some ⟨1979, 2, .on 10, 7200, .wall⟩⟩,
    ⟨43200, .fixed 0, none⟩]

def niue : List Era :=
  [ ⟨-40780, .fixed 0, some ⟨1952, 10, .on 16, 0, .wall⟩⟩,
    ⟨-40800, .fixed 0, some ⟨1964, 7, .on 1, 0, .wall⟩⟩,
    ⟨-39600, .fixed 0, none⟩]

def norfolk : List Era :=
  [ ⟨40312, .fixed 0, some ⟨1901, 1, .on 1, 0, .wall⟩⟩,
    ⟨40320, .fixed 0, some ⟨1951, 1, .on 1, 0, .wall⟩⟩,
    ⟨41400, .fixed 0, some ⟨1974, 10, .on 27, 7200, .standard⟩⟩,
    ⟨41400, .fixed 3600, some ⟨1975, 3, .on 2, 7200, .standard⟩⟩,
    ⟨41400, .fixed 0, some ⟨2015, 10, .on 4, 7200, .standard⟩⟩,
    ⟨39600, .fixed 0, some ⟨2019, 7, .on 1, 0, .wall⟩⟩,
    ⟨39600, .rules Season.newSouthWales, none⟩]

def noumea : List Era :=
  [ ⟨39948, .fixed 0, some ⟨1912, 1, .on 13, 0, .wall⟩⟩,
    ⟨39600, .rules Season.newCaledonia, none⟩]

def pagoPago : List Era :=
  [ ⟨45432, .fixed 0, some ⟨1892, 7, .on 5, 0, .wall⟩⟩,
    ⟨-40968, .fixed 0, some ⟨1911, 1, .on 1, 0, .wall⟩⟩,
    ⟨-39600, .fixed 0, none⟩]

def palau : List Era :=
  [ ⟨-54124, .fixed 0, some ⟨1844, 12, .on 31, 0, .wall⟩⟩,
    ⟨32276, .fixed 0, some ⟨1901, 1, .on 1, 0, .wall⟩⟩,
    ⟨32400, .fixed 0, none⟩]

def pitcairn : List Era :=
  [ ⟨-31220, .fixed 0, some ⟨1901, 1, .on 1, 0, .wall⟩⟩,
    ⟨-30600, .fixed 0, some ⟨1998, 4, .on 27, 0, .wall⟩⟩,
    ⟨-28800, .fixed 0, none⟩]

def portMoresby : List Era :=
  [ ⟨35320, .fixed 0, some ⟨1880, 1, .on 1, 0, .wall⟩⟩,
    ⟨35312, .fixed 0, some ⟨1895, 1, .on 1, 0, .wall⟩⟩,
    ⟨36000, .fixed 0, none⟩]

def rarotonga : List Era :=
  [ ⟨48056, .fixed 0, some ⟨1899, 12, .on 26, 0, .wall⟩⟩,
    ⟨-38344, .fixed 0, some ⟨1952, 10, .on 16, 0, .wall⟩⟩,
    ⟨-37800, .fixed 0, some ⟨1978, 11, .on 12, 0, .wall⟩⟩,
    ⟨-36000, .rules Season.cookIslands, none⟩]

def tahiti : List Era :=
  [ ⟨-35896, .fixed 0, some ⟨1912, 10, .on 1, 0, .wall⟩⟩,
    ⟨-36000, .fixed 0, none⟩]

def tarawa : List Era :=
  [ ⟨41524, .fixed 0, some ⟨1901, 1, .on 1, 0, .wall⟩⟩,
    ⟨43200, .fixed 0, none⟩]

def tongatapu : List Era :=
  [ ⟨44352, .fixed 0, some ⟨1945, 9, .on 10, 0, .wall⟩⟩,
    ⟨44400, .fixed 0, some ⟨1961, 1, .on 1, 0, .wall⟩⟩,
    ⟨46800, .fixed 0, some ⟨1999, 1, .on 1, 0, .wall⟩⟩,
    ⟨46800, .rules Season.tonga, none⟩]

def all : List (String × List Era) :=
  [ ("Pacific/Apia", apia),
    ("Pacific/Auckland", auckland),
    ("Pacific/Bougainville", bougainville),
    ("Pacific/Chatham", chatham),
    ("Pacific/Easter", easter),
    ("Pacific/Efate", efate),
    ("Pacific/Fakaofo", fakaofo),
    ("Pacific/Fiji", fiji),
    ("Pacific/Galapagos", galapagos),
    ("Pacific/Gambier", gambier),
    ("Pacific/Guadalcanal", guadalcanal),
    ("Pacific/Guam", guam),
    ("Pacific/Honolulu", honolulu),
    ("Pacific/Kanton", kanton),
    ("Pacific/Kiritimati", kiritimati),
    ("Pacific/Kosrae", kosrae),
    ("Pacific/Kwajalein", kwajalein),
    ("Pacific/Marquesas", marquesas),
    ("Pacific/Nauru", nauru),
    ("Pacific/Niue", niue),
    ("Pacific/Norfolk", norfolk),
    ("Pacific/Noumea", noumea),
    ("Pacific/Pago_Pago", pagoPago),
    ("Pacific/Palau", palau),
    ("Pacific/Pitcairn", pitcairn),
    ("Pacific/Port_Moresby", portMoresby),
    ("Pacific/Rarotonga", rarotonga),
    ("Pacific/Tahiti", tahiti),
    ("Pacific/Tarawa", tarawa),
    ("Pacific/Tongatapu", tongatapu)]

end Analytics.Zone.Region.Pacific
