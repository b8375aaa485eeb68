import Analytics.Zone.Season

/-!
Seasonal clock changes of Europe and northern Asia.
-/

namespace Analytics.Zone.Season

def britain : List SeasonRule :=
  [ ⟨1916, 1916, 5, .on 21, 7200, .standard, 3600⟩,
    ⟨1916, 1916, 10, .on 1, 7200, .standard, 0⟩,
    ⟨1917, 1917, 4, .on 8, 7200, .standard, 3600⟩,
    ⟨1917, 1917, 9, .on 17, 7200, .standard, 0⟩,
    ⟨1918, 1918, 3, .on 24, 7200, .standard, 3600⟩,
    ⟨1918, 1918, 9, .on 30, 7200, .standard, 0⟩,
    ⟨1919, 1919, 3, .on 30, 7200, .standard, 3600⟩,
    ⟨1919, 1919, 9, .on 29, 7200, .standard, 0⟩,
    ⟨1920, 1920, 3, .on 28, 7200, .standard, 3600⟩,
    ⟨1920, 1920, 10, .on 25, 7200, .standard, 0⟩,
    ⟨1921, 1921, 4, .on 3, 7200, .standard, 3600⟩,
    ⟨1921, 1921, 10, .on 3, 7200, .standard, 0⟩,
    ⟨1922, 1922, 3, .on 26, 7200, .standard, 3600⟩,
    ⟨1922, 1922, 10, .on 8, 7200, .standard, 0⟩,
    ⟨1923, 1923, 4, .onOrAfter 0 16, 7200, .standard, 3600⟩,
    ⟨1923, 1924, 9, .onOrAfter 0 16, 7200, .standard, 0⟩,
    ⟨1924, 1924, 4, .onOrAfter 0 9, 7200, .standard, 3600⟩,
    ⟨1925, 1926, 4, .onOrAfter 0 16, 7200, .standard, 3600⟩,
    ⟨1925, 1938, 10, .onOrAfter 0 2, 7200, .standard, 0⟩,
    ⟨1927, 1927, 4, .onOrAfter 0 9, 7200, .standard, 3600⟩,
    ⟨1928, 1929, 4, .onOrAfter 0 16, 7200, .standard, 3600⟩,
    ⟨1930, 1930, 4, .onOrAfter 0 9, 7200, .standard, 3600⟩,
    ⟨1931, 1932, 4, .onOrAfter 0 16, 7200, .standard, 3600⟩,
    ⟨1933, 1933, 4, .onOrAfter 0 9, 7200, .standard, 3600⟩,
    ⟨1934, 1934, 4, .onOrAfter 0 16, 7200, .standard, 3600⟩,
    ⟨1935, 1935, 4, .onOrAfter 0 9, 7200, .standard, 3600⟩,
    ⟨1936, 1937, 4, .onOrAfter 0 16, 7200, .standard, 3600⟩,
    ⟨1938, 1938, 4, .onOrAfter 0 9, 7200, .standard, 3600⟩,
    ⟨1939, 1939, 4, .onOrAfter 0 16, 7200, .standard, 3600⟩,
    ⟨1939, 1939, 11, .onOrAfter 0 16, 7200, .standard, 0⟩,
    ⟨1940, 1940, 2, .onOrAfter 0 23, 7200, .standard, 3600⟩,
    ⟨1941, 1941, 5, .onOrAfter 0 2, 3600, .standard, 7200⟩,
    ⟨1941, 1943, 8, .onOrAfter 0 9, 3600, .standard, 3600⟩,
    ⟨1942, 1944, 4, .onOrAfter 0 2, 3600, .standard, 7200⟩,
    ⟨1944, 1944, 9, .onOrAfter 0 16, 3600, .standard, 3600⟩,
    ⟨1945, 1945, 4, .onOrAfter 1 2, 3600, .standard, 7200⟩,
    ⟨1945, 1945, 7, .onOrAfter 0 9, 3600, .standard, 3600⟩,
    ⟨1945, 1946, 10, .onOrAfter 0 2, 7200, .standard, 0⟩,
    ⟨1946, 1946, 4, .onOrAfter 0 9, 7200, .standard, 3600⟩,
    ⟨1947, 1947, 3, .on 16, 7200, .standard, 3600⟩,
    ⟨1947, 1947, 4, .on 13, 3600, .standard, 7200⟩,
    ⟨1947, 1947, 8, .on 10, 3600, .standard, 3600⟩,
    ⟨1947, 1947, 11, .on 2, 7200, .standard, 0⟩,
    ⟨1948, 1948, 3, .on 14, 7200, .standard, 3600⟩,
    ⟨1948, 1948, 10, .on 31, 7200, .standard, 0⟩,
    ⟨1949, 1949, 4, .on 3, 7200, .standard, 3600⟩,
    ⟨1949, 1949, 10, .on 30, 7200, .standard, 0⟩,
    ⟨1950, 1952, 4, .onOrAfter 0 14, 7200, .standard, 3600⟩,
    ⟨1950, 1952, 10, .onOrAfter 0 21, 7200, .standard, 0⟩,
    ⟨1953, 1953, 4, .onOrAfter 0 16, 7200, .standard, 3600⟩,
    ⟨1953, 1960, 10, .onOrAfter 0 2, 7200, .standard, 0⟩,
    ⟨1954, 1954, 4, .onOrAfter 0 9, 7200, .standard, 3600⟩,
    ⟨1955, 1956, 4, .onOrAfter 0 16, 7200, .standard, 3600⟩,
    ⟨1957, 1957, 4, .onOrAfter 0 9, 7200, .standard, 3600⟩,
    ⟨1958, 1959, 4, .onOrAfter 0 16, 7200, .standard, 3600⟩,
    ⟨1960, 1960, 4, .onOrAfter 0 9, 7200, .standard, 3600⟩,
    ⟨1961, 1963, 3, .last 0, 7200, .standard, 3600⟩,
    ⟨1961, 1968, 10, .onOrAfter 0 23, 7200, .standard, 0⟩,
    ⟨1964, 1967, 3, .onOrAfter 0 19, 7200, .standard, 3600⟩,
    ⟨1968, 1968, 2, .on 18, 7200, .standard, 3600⟩,
    ⟨1972, 1980, 3, .onOrAfter 0 16, 7200, .standard, 3600⟩,
    ⟨1972, 1980, 10, .onOrAfter 0 23, 7200, .standard, 0⟩,
    ⟨1981, 1995, 3, .last 0, 3600, .universal, 3600⟩,
    ⟨1981, 1989, 10, .onOrAfter 0 23, 3600, .universal, 0⟩,
    ⟨1990, 1995, 10, .onOrAfter 0 22, 3600, .universal, 0⟩]

def europeanUnion : List SeasonRule :=
  [ ⟨1977, 1980, 4, .onOrAfter 0 1, 3600, .universal, 3600⟩,
    ⟨1977, 1977, 9, .last 0, 3600, .universal, 0⟩,
    ⟨1978, 1978, 10, .on 1, 3600, .universal, 0⟩,
    ⟨1979, 1995, 9, .last 0, 3600, .universal, 0⟩,
    ⟨1981, 9999, 3, .last 0, 3600, .universal, 3600⟩,
    ⟨1996, 9999, 10, .last 0, 3600, .universal, 0⟩]

def westernEurope : List SeasonRule :=
  [ ⟨1977, 1980, 4, .onOrAfter 0 1, 3600, .standard, 3600⟩,
    ⟨1977, 1977, 9, .last 0, 3600, .standard, 0⟩,
    ⟨1978, 1978, 10, .on 1, 3600, .standard, 0⟩,
    ⟨1979, 1995, 9, .last 0, 3600, .standard, 0⟩,
    ⟨1981, 9999, 3, .last 0, 3600, .standard, 3600⟩,
    ⟨1996, 9999, 10, .last 0, 3600, .standard, 0⟩]

def centralEurope : List SeasonRule :=
  [ ⟨1916, 1916, 4, .on 30, 82800, .wall, 3600⟩,
    ⟨1916, 1916, 10, .on 1, 3600, .wall, 0⟩,
    ⟨1917, 1918, 4, .onOrAfter 1 15, 7200, .standard, 3600⟩,
    ⟨1917, 1918, 9, .onOrAfter 1 15, 7200, .standard, 0⟩,
    ⟨1940, 1940, 4, .on 1, 7200, .standard, 3600⟩,
    ⟨1942, 1942, 11, .on 2, 7200, .standard, 0⟩,
    ⟨1943, 1943, 3, .on 29, 7200, .standard, 3600⟩,
    ⟨1943, 1943, 10, .on 4, 7200, .standard, 0⟩,
    ⟨1944, 1945, 4, .onOrAfter 1 1, 7200, .standard, 3600⟩,
    ⟨1944, 1944, 10, .on 2, 7200, .standard, 0⟩,
    ⟨1945, 1945, 9, .on 16, 7200, .standard, 0⟩,
    ⟨1977, 1980, 4, .onOrAfter 0 1, 7200, .standard, 3600⟩,
    ⟨1977, 1977, 9, .last 0, 7200, .standard, 0⟩,
    ⟨1978, 1978, 10, .on 1, 7200, .standard, 0⟩,
    ⟨1979, 1995, 9, .last 0, 7200, .standard, 0⟩,
    ⟨1981, 9999, 3, .last 0, 7200, .standard, 3600⟩,
    ⟨1996, 9999, 10, .last 0, 7200, .standard, 0⟩]

def easternEurope : List SeasonRule :=
  [ ⟨1977, 1980, 4, .onOrAfter 0 1, 0, .wall, 3600⟩,
    ⟨1977, 1977, 9, .last 0, 0, .wall, 0⟩,
    ⟨1978, 1978, 10, .on 1, 0, .wall, 0⟩,
    ⟨1979, 1995, 9, .last 0, 0, .wall, 0⟩,
    ⟨1981, 9999, 3, .last 0, 0, .wall, 3600⟩,
    ⟨1996, 9999, 10, .last 0, 0, .wall, 0⟩]

def russia : List SeasonRule :=
  [ ⟨1917, 1917, 7, .on 1, 82800, .wall, 3600⟩,
    ⟨1917, 1917, 12, .on 28, 0, .wall, 0⟩,
    ⟨1918, 1918, 5, .on 31, 79200, .wall, 7200⟩,
    ⟨1918, 1918, 9, .on 16, 3600, .wall, 3600⟩,
    ⟨1919, 1919, 5, .on 31, 82800, .wall, 7200⟩,
    ⟨1919, 1919, 7, .on 1, 0, .universal, 3600⟩,
    ⟨1919, 1919, 8, .on 16, 0, .wall, 0⟩,
    ⟨1921, 1921, 2, .on 14, 82800, .wall, 3600⟩,
    ⟨1921, 1921, 3, .on 20, 82800, .wall, 7200⟩,
    ⟨1921, 1921, 9, .on 1, 0, .wall, 3600⟩,
    ⟨1921, 1921, 10, .on 1, 0, .wall, 0⟩,
    ⟨1981, 1984, 4, .on 1, 0, .wall, 3600⟩,
    ⟨1981, 1983, 10, .on 1, 0, .wall, 0⟩,
    ⟨1984, 1995, 9, .last 0, 7200, .standard, 0⟩,
    ⟨1985, 2010, 3, .last 0, 7200, .standard, 3600⟩,
    ⟨1996, 2010, 10, .last 0, 7200, .standard, 0⟩]

def albania : List SeasonRule :=
  [ ⟨1940, 1940, 6, .on 16, 0, .wall, 3600⟩,
    ⟨1942, 1942, 11, .on 2, 10800, .wall, 0⟩,
    ⟨1943, 1943, 3, .on 29, 7200, .wall, 3600⟩,
    ⟨1943, 1943, 4, .on 10, 10800, .wall, 0⟩,
    ⟨1974, 1974, 5, .on 4, 0, .wall, 3600⟩,
    ⟨1974, 1974, 10, .on 2, 0, .wall, 0⟩,
    ⟨1975, 1975, 5, .on 1, 0, .wall, 3600⟩,
    ⟨1975, 1975, 10, .on 2, 0, .wall, 0⟩,
    ⟨1976, 1976, 5, .on 2, 0, .wall, 3600⟩,
    ⟨1976, 1976, 10, .on 3, 0, .wall, 0⟩,
    ⟨1977, 1977, 5, .on 8, 0, .wall, 3600⟩,
    ⟨1977, 1977, 10, .on 2, 0, .wall, 0⟩,
    ⟨1978, 1978, 5, .on 6, 0, .wall, 3600⟩,
    ⟨1978, 1978, 10, .on 1, 0, .wall, 0⟩,
    ⟨1979, 1979, 5, .on 5, 0, .wall, 3600⟩,
    ⟨1979, 1979, 9, .on 30, 0, .wall, 0⟩,
    ⟨1980, 1980, 5, .on 3, 0, .wall, 3600⟩,
    ⟨1980, 1980, 10, .on 4, 0, .wall, 0⟩,
    ⟨1981, 1981, 4, .on 26, 0, .wall, 3600⟩,
    ⟨1981, 1981, 9, .on 27, 0, .wall, 0⟩,
    ⟨1982, 1982, 5, .on 2, 0, .wall, 3600⟩,
    ⟨1982, 1982, 10, .on 3, 0, .wall, 0⟩,
    ⟨1983, 1983, 4, .on 18, 0, .wall, 3600⟩,
    ⟨1983, 1983, 10, .on 1, 0, .wall, 0⟩,
    ⟨1984, 1984, 4, .on 1, 0, .wall, 3600⟩]

def austria : List SeasonRule :=
  [ ⟨1920, 1920, 4, .on 5, 7200, .standard, 3600⟩,
    ⟨1920, 1920, 9, .on 13, 7200, .standard, 0⟩,
    ⟨1946, 1946, 4, .on 14, 7200, .standard, 3600⟩,
    ⟨1946, 1946, 10, .on 7, 7200, .standard, 0⟩,
    ⟨1947, 1948, 10, .onOrAfter 0 1, 7200, .standard, 0⟩,
    ⟨1947, 1947, 4, .on 6, 7200, .standard, 3600⟩,
    ⟨1948, 1948, 4, .on 18, 7200, .standard, 3600⟩,
    ⟨1980, 1980, 4, .on 6, 0, .wall, 3600⟩,
    ⟨1980, 1980, 9, .on 28, 0, .wall, 0⟩]

def belgium : List SeasonRule :=
  [ ⟨1918, 1918, 3, .on 9, 0, .standard, 3600⟩,
    ⟨1918, 1919, 10, .onOrAfter 6 1, 82800, .standard, 0⟩,
    ⟨1919, 1919, 3, .on 1, 82800, .standard, 3600⟩,
    ⟨1920, 1920, 2, .on 14, 82800, .standard, 3600⟩,
    ⟨1920, 1920, 10, .on 23, 82800, .standard, 0⟩,
    ⟨1921, 1921, 3, .on 14, 82800, .standard, 3600⟩,
    ⟨1921, 1921, 10, .on 25, 82800, .standard, 0⟩,
    ⟨1922, 1922, 3, .on 25, 82800, .standard, 3600⟩,
    ⟨1922, 1927, 10, .onOrAfter 6 1, 82800, .standard, 0⟩,
    ⟨1923, 1923, 4, .on 21, 82800, .standard, 3600⟩,
    ⟨1924, 1924, 3, .on 29, 82800, .standard, 3600⟩,
    ⟨1925, 1925, 4, .on 4, 82800, .standard, 3600⟩,
    ⟨1926, 1926, 4, .on 17, 82800, .standard, 3600⟩,
    ⟨1927, 1927, 4, .on 9, 82800, .standard, 3600⟩,
    ⟨1928, 1928, 4, .on 14, 82800, .standard, 3600⟩,
    ⟨1928, 1938, 10, .onOrAfter 0 2, 7200, .standard, 0⟩,
    ⟨1929, 1929, 4, .on 21, 7200, .standard, 3600⟩,
    ⟨1930, 1930, 4, .on 13, 7200, .standard, 3600⟩,
    ⟨1931, 1931, 4, .on 19, 7200, .standard, 3600⟩,
    ⟨1932, 1932, 4, .on 3, 7200, .standard, 3600⟩,
    ⟨1933, 1933, 3, .on 26, 7200, .standard, 3600⟩,
    ⟨1934, 1934, 4, .on 8, 7200, .standard, 3600⟩,
    ⟨1935, 1935, 3, .on 31, 7200, .standard, 3600⟩,
    ⟨1936, 1936, 4, .on 19, 7200, .standard, 3600⟩,
    ⟨1937, 1937, 4, .on 4, 7200, .standard, 3600⟩,
    ⟨1938, 1938, 3, .on 27, 7200, .standard, 3600⟩,
    ⟨1939, 1939, 4, .on 16, 7200, .standard, 3600⟩,
    ⟨1939, 1939, 11, .on 19, 7200, .standard, 0⟩,
    ⟨1940, 1940, 2, .on 25, 7200, .standard, 3600⟩,
    ⟨1944, 1944, 9, .on 17, 7200, .standard, 0⟩,
    ⟨1945, 1945, 4, .on 2, 7200, .standard, 3600⟩,
    ⟨1945, 1945, 9, .on 16, 7200, .standard, 0⟩,
    ⟨1946, 1946, 5, .on 19, 7200, .standard, 3600⟩,
    ⟨1946, 1946, 10, .on 7, 7200, .standard, 0⟩]

def bulgaria : List SeasonRule :=
  [ ⟨1979, 1979, 3, .on 31, 82800, .wall, 3600⟩,
    ⟨1979, 1979, 10, .on 1, 3600, .wall, 0⟩,
    ⟨1980, 1982, 4, .onOrAfter 6 1, 82800, .wall, 3600⟩,
    ⟨1980, 1980, 9, .on 29, 3600, .wall, 0⟩,
    ⟨1981, 1981, 9, .on 27, 7200, .wall, 0⟩]

def czechia : List SeasonRule :=
  [ ⟨1945, 1945, 4, .onOrAfter 1 1, 7200, .standard, 3600⟩,
    ⟨1945, 1945, 10, .on 1, 7200, .standard, 0⟩,
    ⟨1946, 1946, 5, .on 6, 7200, .standard, 3600⟩,
    ⟨1946, 1949, 10, .onOrAfter 0 1, 7200, .standard, 0⟩,
    ⟨1947, 1948, 4, .onOrAfter 0 15, 7200, .standard, 3600⟩,
    ⟨1949, 1949, 4, .on 9, 7200, .standard, 3600⟩]

def finland : List SeasonRule :=
  [ ⟨1942, 1942, 4, .on 2, 86400, .wall, 3600⟩,
    ⟨1942, 1942, 10, .on 4, 3600, .wall, 0⟩,
    ⟨1981, 1982, 3, .last 0, 7200, .wall, 3600⟩,
    ⟨1981, 1982, 9, .last 0, 10800, .wall, 0⟩]

def france : List SeasonRule :=
  [ ⟨1916, 1916, 6, .on 14, 82800, .standard, 3600⟩,
    ⟨1916, 1919, 10, .onOrAfter 0 1, 82800, .standard, 0⟩,
    ⟨1917, 1917, 3, .on 24, 82800, .standard, 3600⟩,
    ⟨1918, 1918, 3, .on 9, 82800, .standard, 3600⟩,
    ⟨1919, 1919, 3, .on 1, 82800, .standard, 3600⟩,
    ⟨1920, 1920, 2, .on 14, 82800, .standard, 3600⟩,
    ⟨1920, 1920, 10, .on 23, 82800, .standard, 0⟩,
    ⟨1921, 1921, 3, .on 14, 82800, .standard, 3600⟩,
    ⟨1921, 1921, 10, .on 25, 82800, .standard, 0⟩,
    ⟨1922, 1922, 3, .on 25, 82800, .standard, 3600⟩,
    ⟨1922, 1938, 10, .onOrAfter 6 1, 82800, .standard, 0⟩,
    ⟨1923, 1923, 5, .on 26, 82800, .standard, 3600⟩,
    ⟨1924, 1924, 3, .on 29, 82800, .standard, 3600⟩,
    ⟨1925, 1925, 4, .on 4, 82800, .standard, 3600⟩,
    ⟨1926, 1926, 4, .on 17, 82800, .standard, 3600⟩,
    ⟨1927, 1927, 4, .on 9, 82800, .standard, 3600⟩,
    ⟨1928, 1928, 4, .on 14, 82800, .standard, 3600⟩,
    ⟨1929, 1929, 4, .on 20, 82800, .standard, 3600⟩,
    ⟨1930, 1930, 4, .on 12, 82800, .standard, 3600⟩,
    ⟨1931, 1931, 4, .on 18, 82800, .standard, 3600⟩,
    ⟨1932, 1932, 4, .on 2, 82800, .standard, 3600⟩,
    ⟨1933, 1933, 3, .on 25, 82800, .standard, 3600⟩,
    ⟨1934, 1934, 4, .on 7, 82800, .standard, 3600⟩,
    ⟨1935, 1935, 3, .on 30, 82800, .standard, 3600⟩,
    ⟨1936, 1936, 4, .on 18, 82800, .standard, 3600⟩,
    ⟨1937, 1937, 4, .on 3, 82800, .standard, 3600⟩,
    ⟨1938, 1938, 3, .on 26, 82800, .standard, 3600⟩,
    ⟨1939, 1939, 4, .on 15, 82800, .standard, 3600⟩,
    ⟨1939, 1939, 11, .on 18, 82800, .standard, 0⟩,
    ⟨1940, 1940, 2, .on 25, 7200, .wall, 3600⟩,
    ⟨1941, 1941, 5, .on 5, 0, .wall, 7200⟩,
    ⟨1941, 1941, 10, .on 6, 0, .wall, 3600⟩,
    ⟨1942, 1942, 3, .on 9, 0, .wall, 7200⟩,
    ⟨1942, 1942, 11, .on 2, 10800, .wall, 3600⟩,
    ⟨1943, 1943, 3, .on 29, 7200, .wall, 7200⟩,
    ⟨1943, 1943, 10, .on 4, 10800, .wall, 3600⟩,
    ⟨1944, 1944, 4, .on 3, 7200, .wall, 7200⟩,
    ⟨1944, 1944, 10, .on 8, 3600, .wall, 3600⟩,
    ⟨1945, 1945, 4, .on 2, 7200, .wall, 7200⟩,
    ⟨1945, 1945, 9, .on 16, 10800, .wall, 0⟩,
    ⟨1976, 1976, 3, .on 28, 3600, .wall, 3600⟩,
    ⟨1976, 1976, 9, .on 26, 3600, .wall, 0⟩]

def germany : List SeasonRule :=
  [ ⟨1946, 1946, 4, .on 14, 7200, .standard, 3600⟩,
    ⟨1946, 1946, 10, .on 7, 7200, .standard, 0⟩,
    ⟨1947, 1949, 10, .onOrAfter 0 1, 7200, .standard, 0⟩,
    ⟨1947, 1947, 4, .on 6, 10800, .standard, 3600⟩,
    ⟨1947, 1947, 5, .on 11, 7200, .standard, 7200⟩,
    ⟨1947, 1947, 6, .on 29, 10800, .wall, 3600⟩,
    ⟨1948, 1948, 4, .on 18, 7200, .standard, 3600⟩,
    ⟨1949, 1949, 4, .on 10, 7200, .standard, 3600⟩]

def sovietZone : List SeasonRule :=
  [ ⟨1945, 1945, 5, .on 24, 7200, .wall, 7200⟩,
    ⟨1945, 1945, 9, .on 24, 10800, .wall, 3600⟩,
    ⟨1945, 1945, 11, .on 18, 7200, .standard, 0⟩]

def greece : List SeasonRule :=
  [ ⟨1932, 1932, 7, .on 7, 0, .wall, 3600⟩,
    ⟨1932, 1932, 9, .on 1, 0, .wall, 0⟩,
    ⟨1941, 1941, 4, .on 7, 0, .wall, 3600⟩,
    ⟨1942, 1942, 11, .on 2, 10800, .wall, 0⟩,
    ⟨1943, 1943, 3, .on 30, 0, .wall, 3600⟩,
    ⟨1943, 1943, 10, .on 4, 0, .wall, 0⟩,
    ⟨1952, 1952, 7, .on 1, 0, .wall, 3600⟩,
    ⟨1952, 1952, 11, .on 2, 0, .wall, 0⟩,
    ⟨1975, 1975, 4, .on 12, 0, .standard, 3600⟩,
    ⟨1975, 1975, 11, .on 26, 0, .standard, 0⟩,
    ⟨1976, 1976, 4, .on 11, 7200, .standard, 3600⟩,
    ⟨1976, 1976, 10, .on 10, 7200, .standard, 0⟩,
    ⟨1977, 1978, 4, .onOrAfter 0 1, 7200, .standard, 3600⟩,
    ⟨1977, 1977, 9, .on 26, 7200, .standard, 0⟩,
    ⟨1978, 1978, 9, .on 24, 14400, .wall, 0⟩,
    ⟨1979, 1979, 4, .on 1, 32400, .wall, 3600⟩,
    ⟨1979, 1979, 9, .on 29, 7200, .wall, 0⟩,
    ⟨1980, 1980, 4, .on 1, 0, .wall, 3600⟩,
    ⟨1980, 1980, 9, .on 28, 0, .wall, 0⟩]

def hungary : List SeasonRule :=
  [ ⟨1918, 1919, 4, .on 15, 7200, .wall, 3600⟩,
    ⟨1918, 1920, 9, .onOrAfter 1 15, 10800, .wall, 0⟩,
    ⟨1920, 1920, 4, .on 5, 7200, .wall, 3600⟩,
    ⟨1945, 1945, 5, .on 1, 82800, .wall, 3600⟩,
    ⟨1945, 1945, 11, .on 1, 3600, .wall, 0⟩,
    ⟨1946, 1946, 3, .on 31, 7200, .standard, 3600⟩,
    ⟨1946, 1946, 10, .on 7, 7200, .wall, 0⟩,
    ⟨1947, 1949, 4, .onOrAfter 0 4, 7200, .standard, 3600⟩,
    ⟨1947, 1949, 10, .onOrAfter 0 1, 7200, .standard, 0⟩,
    ⟨1954, 1954, 5, .on 23, 0, .wall, 3600⟩,
    ⟨1954, 1954, 10, .on 3, 0, .wall, 0⟩,
    ⟨1955, 1955, 5, .on 22, 7200, .wall, 3600⟩,
    ⟨1955, 1955, 10, .on 2, 10800, .wall, 0⟩,
    ⟨1956, 1957, 6, .onOrAfter 0 1, 7200, .wall, 3600⟩,
    ⟨1956, 1957, 9, .last 0, 10800, .wall, 0⟩,
    ⟨1980, 1980, 4, .on 6, 0, .wall, 3600⟩,
    ⟨1980, 1980, 9, .on 28, 3600, .wall, 0⟩,
    ⟨1981, 1983, 3, .last 0, 0, .wall, 3600⟩,
    ⟨1981, 1983, 9, .last 0, 3600, .wall, 0⟩]

def italy : List SeasonRule :=
  [ ⟨1916, 1916, 6, .on 3, 86400, .wall, 3600⟩,
    ⟨1916, 1917, 9, .on 30, 86400, .wall, 0⟩,
    ⟨1917, 1917, 3, .on 31, 86400, .wall, 3600⟩,
    ⟨1918, 1918, 3, .on 9, 86400, .wall, 3600⟩,
    ⟨1918, 1918, 10, .on 6, 86400, .wall, 0⟩,
    ⟨1919, 1919, 3, .on 1, 86400, .wall, 3600⟩,
    ⟨1919, 1919, 10, .on 4, 86400, .wall, 0⟩,
    ⟨1920, 1920, 3, .on 20, 86400, .wall, 3600⟩,
    ⟨1920, 1920, 9, .on 18, 86400, .wall, 0⟩,
    ⟨1940, 1940, 6, .on 14, 86400, .wall, 3600⟩,
    ⟨1942, 1942, 11, .on 2, 7200, .standard, 0⟩,
    ⟨1943, 1943, 3, .on 29, 7200, .standard, 3600⟩,
    ⟨1943, 1943, 10, .on 4, 7200, .standard, 0⟩,
    ⟨1944, 1944, 4, .on 2, 7200, .standard, 3600⟩,
    ⟨1944, 1944, 9, .on 17, 7200, .standard, 0⟩,
    ⟨1945, 1945, 4, .on 2, 7200, .wall, 3600⟩,
    ⟨1945, 1945, 9, .on 15, 3600, .wall, 0⟩,
    ⟨1946, 1946, 3, .on 17, 7200, .standard, 3600⟩,
    ⟨1946, 1946, 10, .on 6, 7200, .standard, 0⟩,
    ⟨1947, 1947, 3, .on 16, 0, .standard, 3600⟩,
    ⟨1947, 1947, 10, .on 5, 0, .standard, 0⟩,
    ⟨1948, 1948, 2, .on 29, 7200, .standard, 3600⟩,
    ⟨1948, 1948, 10, .on 3, 7200, .standard, 0⟩,
    ⟨1966, 1968, 5, .onOrAfter 0 22, 0, .standard, 3600⟩,
    ⟨1966, 1966, 9, .on 24, 86400, .wall, 0⟩,
    ⟨1967, 1969, 9, .onOrAfter 0 22, 0, .standard, 0⟩,
    ⟨1969, 1969, 6, .on 1, 0, .standard, 3600⟩,
    ⟨1970, 1970, 5, .on 31, 0, .standard, 3600⟩,
    ⟨1970, 1970, 9, .last 0, 0, .standard, 0⟩,
    ⟨1971, 1972, 5, .onOrAfter 0 22, 0, .standard, 3600⟩,
    ⟨1971, 1971, 9, .last 0, 0, .standard, 0⟩,
    ⟨1972, 1972, 10, .on 1, 0, .standard, 0⟩,
    ⟨1973, 1973, 6, .on 3, 0, .standard, 3600⟩,
    ⟨1973, 1974, 9, .last 0, 0, .standard, 0⟩,
    ⟨1974, 1974, 5, .on 26, 0, .standard, 3600⟩,
    ⟨1975, 1975, 6, .on 1, 0, .standard, 3600⟩,
    ⟨1975, 1977, 9, .last 0, 0, .standard, 0⟩,
    ⟨1976, 1976, 5, .on 30, 0, .standard, 3600⟩,
    ⟨1977, 1979, 5, .onOrAfter 0 22, 0, .standard, 3600⟩,
    ⟨1978, 1978, 10, .on 1, 0, .standard, 0⟩,
    ⟨1979, 1979, 9, .on 30, 0, .standard, 0⟩]

def latvia : List SeasonRule :=
  [ ⟨1989, 1996, 3, .last 0, 7200, .standard, 3600⟩,
    ⟨1989, 1996, 9, .last 0, 7200, .standard, 0⟩]

def malta : List SeasonRule :=
  [ ⟨1973, 1973, 3, .on 31, 0, .standard, 3600⟩,
    ⟨1973, 1973, 9, .on 29, 0, .standard, 0⟩,
    ⟨1974, 1974, 4, .on 21, 0, .standard, 3600⟩,
    ⟨1974, 1974, 9, .on 16, 0, .standard, 0⟩,
    ⟨1975, 1979, 4, .onOrAfter 0 15, 7200, .wall, 3600⟩,
    ⟨1975, 1980, 9, .onOrAfter 0 15, 7200, .wall, 0⟩,
    ⟨1980, 1980, 3, .on 31, 7200, .wall, 3600⟩]

def moldova : List SeasonRule :=
  [ ⟨1997, 9999, 3, .last 0, 7200, .wall, 3600⟩,
    ⟨1997, 9999, 10, .last 0, 10800, .wall, 0⟩]

def poland : List SeasonRule :=
  [ ⟨1918, 1919, 9, .on 16, 7200, .standard, 0⟩,
    ⟨1919, 1919, 4, .on 15, 7200, .standard, 3600⟩,
    ⟨1944, 1944, 4, .on 3, 7200, .standard, 3600⟩,
    ⟨1944, 1944, 10, .on 4, 7200, .wall, 0⟩,
    ⟨1945, 1945, 4, .on 29, 0, .wall, 3600⟩,
    ⟨1945, 1945, 11, .on 1, 0, .wall, 0⟩,
    ⟨1946, 1946, 4, .on 14, 0, .standard, 3600⟩,
    ⟨1946, 1946, 10, .on 7, 7200, .standard, 0⟩,
    ⟨1947, 1947, 5, .on 4, 7200, .standard, 3600⟩,
    ⟨1947, 1949, 10, .onOrAfter 0 1, 7200, .standard, 0⟩,
    ⟨1948, 1948, 4, .on 18, 7200, .standard, 3600⟩,
    ⟨1949, 1949, 4, .on 10, 7200, .standard, 3600⟩,
    ⟨1957, 1957, 6, .on 2, 3600, .standard, 3600⟩,
    ⟨1957, 1958, 9, .last 0, 3600, .standard, 0⟩,
    ⟨1958, 1958, 3, .on 30, 3600, .standard, 3600⟩,
    ⟨1959, 1959, 5, .on 31, 3600, .standard, 3600⟩,
    ⟨1959, 1961, 10, .onOrAfter 0 1, 3600, .standard, 0⟩,
    ⟨1960, 1960, 4, .on 3, 3600, .standard, 3600⟩,
    ⟨1961, 1964, 5, .last 0, 3600, .standard, 3600⟩,
    ⟨1962, 1964, 9, .last 0, 3600, .standard, 0⟩]

def portugal : List SeasonRule :=
  [ ⟨1916, 1916, 6, .on 17, 82800, .wall, 3600⟩,
    ⟨1916, 1916, 11, .on 1, 3600, .wall, 0⟩,
    ⟨1917, 1921, 3, .on 1, 0, .wall, 3600⟩,
    ⟨1917, 1921, 10, .on 14, 86400, .wall, 0⟩,
    ⟨1924, 1924, 4, .on 16, 82800, .standard, 3600⟩,
    ⟨1924, 1924, 10, .on 4, 82800, .standard, 0⟩,
    ⟨1926, 1926, 4, .on 17, 82800, .standard, 3600⟩,
    ⟨1926, 1929, 10, .onOrAfter 6 1, 82800, .standard, 0⟩,
    ⟨1927, 1927, 4, .on 9, 82800, .standard, 3600⟩,
    ⟨1928, 1928, 4, .on 14, 82800, .standard, 3600⟩,
    ⟨1929, 1929, 4, .on 20, 82800, .standard, 3600⟩,
    ⟨1931, 1931, 4, .on 18, 82800, .standard, 3600⟩,
    ⟨1931, 1932, 10, .onOrAfter 6 1, 82800, .standard, 0⟩,
    ⟨1932, 1932, 4, .on 2, 82800, .standard, 3600⟩,
    ⟨1934, 1934, 4, .on 7, 82800, .standard, 3600⟩,
    ⟨1934, 1938, 10, .onOrAfter 6 1, 82800, .standard, 0⟩,
    ⟨1935, 1935, 3, .on 30, 82800, .standard, 3600⟩,
    ⟨1936, 1936, 4, .on 18, 82800, .standard, 3600⟩,
    ⟨1937, 1937, 4, .on 3, 82800, .standard, 3600⟩,
    ⟨1938, 1938, 3, .on 26, 82800, .standard, 3600⟩,
    ⟨1939, 1939, 4, .on 15, 82800, .standard, 3600⟩,
    ⟨1939, 1939, 11, .on 18, 82800, .standard, 0⟩,
    ⟨1940, 1940, 2, .on 24, 82800, .standard, 3600⟩,
    ⟨1940, 1940, 10, .on 7, 82800, .standard, 0⟩,
    ⟨1941, 1941, 4, .on 5, 82800, .standard, 3600⟩,
    ⟨1941, 1941, 10, .on 5, 82800, .standard, 0⟩,
    ⟨1942, 1945, 3, .onOrAfter 6 8, 82800, .standard, 3600⟩,
    ⟨1942, 1942, 4, .on 25, 79200, .standard, 7200⟩,
    ⟨1942, 1942, 8, .on 15, 79200, .standard, 3600⟩,
    ⟨1942, 1945, 10, .onOrAfter 6 24, 82800, .standard, 0⟩,
    ⟨1943, 1943, 4, .on 17, 79200, .standard, 7200⟩,
    ⟨1943, 1945, 8, .onOrAfter 6 25, 79200, .standard, 3600⟩,
    ⟨1944, 1945, 4, .onOrAfter 6 21, 79200, .standard, 7200⟩,
    ⟨1946, 1946, 4, .onOrAfter 6 1, 82800, .standard, 3600⟩,
    ⟨1946, 1946, 10, .onOrAfter 6 1, 82800, .standard, 0⟩,
    ⟨1947, 1966, 4, .onOrAfter 0 1, 7200, .standard, 3600⟩,
    ⟨1947, 1965, 10, .onOrAfter 0 1, 7200, .standard, 0⟩,
    ⟨1976, 1976, 9, .last 0, 3600, .wall, 0⟩,
    ⟨1977, 1977, 3, .last 0, 0, .standard, 3600⟩,
    ⟨1977, 1977, 9, .last 0, 0, .standard, 0⟩,
    ⟨1978, 1980, 4, .onOrAfter 0 1, 3600, .standard, 3600⟩,
    ⟨1978, 1978, 10, .on 1, 3600, .standard, 0⟩,
    ⟨1979, 1980, 9, .last 0, 3600, .standard, 0⟩,
    ⟨1981, 1986, 3, .last 0, 0, .standard, 3600⟩,
    ⟨1981, 1985, 9, .last 0, 0, .standard, 0⟩]

def romania : List SeasonRule :=
  [ ⟨1932, 1932, 5, .on 21, 0, .standard, 3600⟩,
    ⟨1932, 1939, 10, .onOrAfter 0 1, 0, .standard, 0⟩,
    ⟨1933, 1939, 4, .onOrAfter 0 2, 0, .standard, 3600⟩,
    ⟨1979, 1979, 5, .on 27, 0, .wall, 3600⟩,
    ⟨1979, 1979, 9, .last 0, 0, .wall, 0⟩,
    ⟨1980, 1980, 4, .on 5, 82800, .wall, 3600⟩,
    ⟨1980, 1980, 9, .last 0, 3600, .wall, 0⟩,
    ⟨1991, 1993, 3, .last 0, 0, .standard, 3600⟩,
    ⟨1991, 1993, 9, .last 0, 0, .standard, 0⟩]

def spain : List SeasonRule :=
  [ ⟨1918, 1918, 4, .on 15, 82800, .wall, 3600⟩,
    ⟨1918, 1919, 10, .on 6, 86400, .standard, 0⟩,
    ⟨1919, 1919, 4, .on 6, 82800, .wall, 3600⟩,
    ⟨1924, 1924, 4, .on 16, 82800, .wall, 3600⟩,
    ⟨1924, 1924, 10, .on 4, 86400, .standard, 0⟩,
    ⟨1926, 1926, 4, .on 17, 82800, .wall, 3600⟩,
    ⟨1926, 1929, 10, .onOrAfter 6 1, 86400, .standard, 0⟩,
    ⟨1927, 1927, 4, .on 9, 82800, .wall, 3600⟩,
    ⟨1928, 1928, 4, .on 15, 0, .wall, 3600⟩,
    ⟨1929, 1929, 4, .on 20, 82800, .wall, 3600⟩,
    ⟨1937, 1937, 6, .on 16, 82800, .wall, 3600⟩,
    ⟨1937, 1937, 10, .on 2, 86400, .standard, 0⟩,
    ⟨1938, 1938, 4, .on 2, 82800, .wall, 3600⟩,
    ⟨1938, 1938, 4, .on 30, 82800, .wall, 7200⟩,
    ⟨1938, 1938, 10, .on 2, 86400, .wall, 3600⟩,
    ⟨1939, 1939, 10, .on 7, 86400, .standard, 0⟩,
    ⟨1942, 1942, 5, .on 2, 82800, .wall, 3600⟩,
    ⟨1942, 1942, 9, .on 1, 3600, .wall, 0⟩,
    ⟨1943, 1946, 4, .onOrAfter 6 13, 82800, .wall, 3600⟩,
    ⟨1943, 1944, 10, .onOrAfter 0 1, 3600, .wall, 0⟩,
    ⟨1945, 1946, 9, .last 0, 3600, .wall, 0⟩,
    ⟨1949, 1949, 4, .on 30, 82800, .wall, 3600⟩,
    ⟨1949, 1949, 10, .on 2, 3600, .wall, 0⟩,
    ⟨1974, 1975, 4, .onOrAfter 6 12, 82800, .wall, 3600⟩,
    ⟨1974, 1975, 10, .onOrAfter 0 1, 3600, .wall, 0⟩,
    ⟨1976, 1976, 3, .on 27, 82800, .wall, 3600⟩,
    ⟨1976, 1977, 9, .last 0, 3600, .wall, 0⟩,
    ⟨1977, 1977, 4, .on 2, 82800, .wall, 3600⟩,
    ⟨1978, 1978, 4, .on 2, 7200, .standard, 3600⟩,
    ⟨1978, 1978, 10, .on 1, 7200, .standard, 0⟩]

def spanishAfrica : List SeasonRule :=
  [ ⟨1967, 1967, 6, .on 3, 43200, .wall, 3600⟩,
    ⟨1967, 1967, 10, .on 1, 0, .wall, 0⟩,
    ⟨1974, 1974, 6, .on 24, 0, .wall, 3600⟩,
    ⟨1974, 1974, 9, .on 1, 0, .wall, 0⟩,
    ⟨1976, 1977, 5, .on 1, 0, .wall, 3600⟩,
    ⟨1976, 1976, 8, .on 1, 0, .wall, 0⟩,
    ⟨1977, 1977, 9, .on 28, 0, .wall, 0⟩,
    ⟨1978, 1978, 6, .on 1, 0, .wall, 3600⟩,
    ⟨1978, 1978, 8, .on 4, 0, .wall, 0⟩]

def switzerland : List SeasonRule :=
  [ ⟨1941, 1942, 5, .onOrAfter 1 1, 3600, .wall, 3600⟩,
    ⟨1941, 1942, 10, .onOrAfter 1 1, 7200, .wall, 0⟩]

def turkey : List SeasonRule :=
  [ ⟨1916, 1916, 5, .on 1, 0, .wall, 3600⟩,
    ⟨1916, 1916, 10, .on 1, 0, .wall, 0⟩,
    ⟨1920, 1920, 3, .on 28, 0, .wall, 3600⟩,
    ⟨1920, 1920, 10, .on 25, 0, .wall, 0⟩,
    ⟨1921, 1921, 4, .on 3, 0, .wall, 3600⟩,
    ⟨1921, 1921, 10, .on 3, 0, .wall, 0⟩,
    ⟨1922, 1922, 3, .on 26, 0, .wall, 3600⟩,
    ⟨1922, 1922, 10, .on 8, 0, .wall, 0⟩,
    ⟨1924, 1924, 5, .on 13, 0, .wall, 3600⟩,
    ⟨1924, 1925, 10, .on 1, 0, .wall, 0⟩,
    ⟨1925, 1925, 5, .on 1, 0, .wall, 3600⟩,
    ⟨1940, 1940, 7, .on 1, 0, .wall, 3600⟩,
    ⟨1940, 1940, 10, .on 6, 0, .wall, 0⟩,
    ⟨1940, 1940, 12, .on 1, 0, .wall, 3600⟩,
    ⟨1941, 1941, 9, .on 21, 0, .wall, 0⟩,
    ⟨1942, 1942, 4, .on 1, 0, .wall, 3600⟩,
    ⟨1945, 1945, 10, .on 8, 0, .wall, 0⟩,
    ⟨1946, 1946, 6, .on 1, 0, .wall, 3600⟩,
    ⟨1946, 1946, 10, .on 1, 0, .wall, 0⟩,
    ⟨1947, 1948, 4, .onOrAfter 0 16, 0, .wall, 3600⟩,
    ⟨1947, 1951, 10, .onOrAfter 0 2, 0, .wall, 0⟩,
    ⟨1949, 1949, 4, .on 10, 0, .wall, 3600⟩,
    ⟨1950, 1950, 4, .on 16, 0, .wall, 3600⟩,
    ⟨1951, 1951, 4, .on 22, 0, .wall, 3600⟩,
    ⟨1962, 1962, 7, .on 15, 0, .wall, 3600⟩,
    ⟨1963, 1963, 10, .on 30, 0, .wall, 0⟩,
    ⟨1964, 1964, 5, .on 15, 0, .wall, 3600⟩,
    ⟨1964, 1964, 10, .on 1, 0, .wall, 0⟩,
    ⟨1973, 1973, 6, .on 3, 3600, .wall, 3600⟩,
    ⟨1973, 1976, 10, .onOrAfter 0 31, 7200, .wall, 0⟩,
    ⟨1974, 1974, 3, .on 31, 7200, .wall, 3600⟩,
    ⟨1975, 1975, 3, .on 22, 7200, .wall, 3600⟩,
    ⟨1976, 1976, 3, .on 21, 7200, .wall, 3600⟩,
    ⟨1977, 1978, 4, .onOrAfter 0 1, 7200, .wall, 3600⟩,
    ⟨1977, 1978, 10, .onOrAfter 0 15, 7200, .wall, 0⟩,
    ⟨1978, 1978, 6, .on 29, 0, .wall, 0⟩,
    ⟨1983, 1983, 7, .on 31, 7200, .wall, 3600⟩,
    ⟨1983, 1983, 10, .on 2, 7200, .wall, 0⟩,
    ⟨1985, 1985, 4, .on 20, 3600, .standard, 3600⟩,
    ⟨1985, 1985, 9, .on 28, 3600, .standard, 0⟩,
    ⟨1986, 1993, 3, .last 0, 3600, .standard, 3600⟩,
    ⟨1986, 1995, 9, .last 0, 3600, .standard, 0⟩,
    ⟨1994, 1994, 3, .on 20, 3600, .standard, 3600⟩,
    ⟨1995, 2006, 3, .last 0, 3600, .standard, 3600⟩,
    ⟨1996, 2006, 10, .last 0, 3600, .standard, 0⟩]

end Analytics.Zone.Season
